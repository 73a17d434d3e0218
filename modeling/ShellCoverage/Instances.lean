/-!
# The instances of the core library

Libraries for algebra and order give powers, sums and orders of numbers and lists a second meaning, which is
equal to that of the core library but not the same term. The instances below come first, so that a
definition means the same wherever such a library is in scope.
-/

attribute [instance (2000)] instPowNat instNatPowNat Int.instNatPow
attribute [default_instance 20000] instPowNat
attribute [instance (2000)] Zero.ofOfNat0
attribute [instance (2000)] instLTFin Char.instLT List.instLE List.decidableLE
