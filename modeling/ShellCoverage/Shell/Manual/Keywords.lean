import ShellCoverage.Shell.Manual.Topic

/-!
# Help: the words of the grammar, and the variables of the shell

* `Manual.keywords` : the topics.
-/

namespace ShellCoverage.Shell.Manual

/-- Topics about the words of the grammar, and the variables of the shell. -/
def keywords : List Topic := [
  { name := "%"
    synopsis := "job_spec [&]"
    lines := [
      "Resume job in foreground.",
      "",
      "Equivalent to the JOB_SPEC argument to the `fg' command.  Resume a",
      "stopped or background job.  JOB_SPEC can specify either a job name",
      "or a job number.  Following JOB_SPEC with a `&' places the job in",
      "the background, as if the job specification had been supplied as an",
      "argument to `bg'.",
      "",
      "Exit Status:",
      "Returns the status of the resumed job."] },
  { name := "(( ... ))"
    synopsis := "(( expression ))"
    lines := [
      "Evaluate arithmetic expression.",
      "",
      "The EXPRESSION is evaluated according to the rules for arithmetic",
      "evaluation.  Equivalent to `let \"EXPRESSION\"'.",
      "",
      "Exit Status:",
      "Returns 1 if EXPRESSION evaluates to 0; returns 0 otherwise."] },
  { name := "[[ ... ]]"
    synopsis := "[[ expression ]]"
    lines := [
      "Execute conditional command.",
      "",
      "Returns a status of 0 or 1 depending on the evaluation of the conditional",
      "expression EXPRESSION.  Expressions are composed of the same primaries used",
      "by the `test' builtin, and may be combined using the following operators:",
      "",
      "  ( EXPRESSION )\tReturns the value of EXPRESSION",
      "  ! EXPRESSION\t\tTrue if EXPRESSION is false; else false",
      "  EXPR1 && EXPR2\tTrue if both EXPR1 and EXPR2 are true; else false",
      "  EXPR1 || EXPR2\tTrue if either EXPR1 or EXPR2 is true; else false",
      "",
      "When the `==' and `!=' operators are used, the string to the right of",
      "the operator is used as a pattern and pattern matching is performed.",
      "When the `=~' operator is used, the string to the right of the operator",
      "is matched as a regular expression.",
      "",
      "The && and || operators do not evaluate EXPR2 if EXPR1 is sufficient to",
      "determine the expression's value.",
      "",
      "Exit Status:",
      "0 or 1 depending on value of EXPRESSION."] },
  { name := "case"
    synopsis := "case WORD in [PATTERN [| PATTERN]...) COMMANDS ;;]... esac"
    lines := [
      "Execute commands based on pattern matching.",
      "",
      "Selectively execute COMMANDS based upon WORD matching PATTERN.  The",
      "`|' is used to separate multiple patterns.",
      "",
      "Exit Status:",
      "Returns the status of the last command executed."] },
  { name := "coproc"
    synopsis := "coproc [NAME] command [redirections]"
    lines := [
      "Create a coprocess named NAME.",
      "",
      "Execute COMMAND asynchronously, with the standard output and standard",
      "input of the command connected via a pipe to file descriptors assigned",
      "to indices 0 and 1 of an array variable NAME in the executing shell.",
      "The default NAME is \"COPROC\".",
      "",
      "Exit Status:",
      "The coproc command returns an exit status of 0."] },
  { name := "for"
    synopsis := "for NAME [in WORDS ... ] ; do COMMANDS; done"
    lines := [
      "Execute commands for each member in a list.",
      "",
      "The `for' loop executes a sequence of commands for each member in a",
      "list of items.  If `in WORDS ...;' is not present, then `in \"$@\"' is",
      "assumed.  For each element in WORDS, NAME is set to that element, and",
      "the COMMANDS are executed.",
      "",
      "Exit Status:",
      "Returns the status of the last command executed."] },
  { name := "for (("
    synopsis := "for (( exp1; exp2; exp3 )); do COMMANDS; done"
    lines := [
      "Arithmetic for loop.",
      "",
      "Equivalent to",
      "\t(( EXP1 ))",
      "\twhile (( EXP2 )); do",
      "\t\tCOMMANDS",
      "\t\t(( EXP3 ))",
      "\tdone",
      "EXP1, EXP2, and EXP3 are arithmetic expressions.  If any expression is",
      "omitted, it behaves as if it evaluates to 1.",
      "",
      "Exit Status:",
      "Returns the status of the last command executed."] },
  { name := "function"
    synopsis := "function name \x7b COMMANDS ; \x7d or name () \x7b COMMANDS ; \x7d"
    lines := [
      "Define shell function.",
      "",
      "Create a shell function named NAME.  When invoked as a simple command,",
      "NAME runs COMMANDs in the calling shell's context.  When NAME is invoked,",
      "the arguments are passed to the function as $1...$n, and the function's",
      "name is in $FUNCNAME.",
      "",
      "Exit Status:",
      "Returns success unless NAME is readonly."] },
  { name := "if"
    synopsis := "if COMMANDS; then COMMANDS; [ elif COMMANDS; then COMMANDS; ]... [ else " ++
      "COMMANDS; ] fi"
    lines := [
      "Execute commands based on conditional.",
      "",
      "The `if COMMANDS' list is executed.  If its exit status is zero, then the",
      "`then COMMANDS' list is executed.  Otherwise, each `elif COMMANDS' list is",
      "executed in turn, and if its exit status is zero, the corresponding",
      "`then COMMANDS' list is executed and the if command completes.  Otherwise,",
      "the `else COMMANDS' list is executed, if present.  The exit status of the",
      "entire construct is the exit status of the last command executed, or zero",
      "if no condition tested true.",
      "",
      "Exit Status:",
      "Returns the status of the last command executed."] },
  { name := "select"
    synopsis := "select NAME [in WORDS ... ;] do COMMANDS; done"
    lines := [
      "Select words from a list and execute commands.",
      "",
      "The WORDS are expanded, generating a list of words.  The",
      "set of expanded words is printed on the standard error, each",
      "preceded by a number.  If `in WORDS' is not present, `in \"$@\"'",
      "is assumed.  The PS3 prompt is then displayed and a line read",
      "from the standard input.  If the line consists of the number",
      "corresponding to one of the displayed words, then NAME is set",
      "to that word.  If the line is empty, WORDS and the prompt are",
      "redisplayed.  If EOF is read, the command completes.  Any other",
      "value read causes NAME to be set to null.  The line read is saved",
      "in the variable REPLY.  COMMANDS are executed after each selection",
      "until a break command is executed.",
      "",
      "Exit Status:",
      "Returns the status of the last command executed."] },
  { name := "time"
    synopsis := "time [-p] pipeline"
    lines := [
      "Report time consumed by pipeline's execution.",
      "",
      "Execute PIPELINE and print a summary of the real time, user CPU time,",
      "and system CPU time spent executing PIPELINE when it terminates.",
      "",
      "Options:",
      "  -p\tprint the timing summary in the portable Posix format",
      "",
      "The value of the TIMEFORMAT variable is used as the output format.",
      "",
      "Exit Status:",
      "The return status is the return status of PIPELINE."] },
  { name := "until"
    synopsis := "until COMMANDS; do COMMANDS-2; done"
    lines := [
      "Execute commands as long as a test does not succeed.",
      "",
      "Expand and execute COMMANDS-2 as long as the final command in COMMANDS has",
      "an exit status which is not zero.",
      "",
      "Exit Status:",
      "Returns the status of the last command executed."] },
  { name := "variables"
    synopsis := "variables - Names and meanings of some shell variables"
    lines := [
      "Common shell variable names and usage.",
      "",
      "BASH_VERSION\tVersion information for this Bash.",
      "CDPATH\tA colon-separated list of directories to search",
      "\t\tfor directories given as arguments to `cd'.",
      "GLOBIGNORE\tA colon-separated list of patterns describing filenames to",
      "\t\tbe ignored by pathname expansion.",
      "HISTFILE\tThe name of the file where your command history is stored.",
      "HISTFILESIZE\tThe maximum number of lines this file can contain.",
      "HISTSIZE\tThe maximum number of history lines that a running",
      "\t\tshell can access.",
      "HOME\tThe complete pathname to your login directory.",
      "HOSTNAME\tThe name of the current host.",
      "HOSTTYPE\tThe type of CPU this version of Bash is running under.",
      "IGNOREEOF\tControls the action of the shell on receipt of an EOF",
      "\t\tcharacter as the sole input.  If set, then the value",
      "\t\tof it is the number of EOF characters that can be seen",
      "\t\tin a row on an empty line before the shell will exit",
      "\t\t(default 10).  When unset, EOF signifies the end of input.",
      "MACHTYPE\tA string describing the current system Bash is running on.",
      "MAILCHECK\tHow often, in seconds, Bash checks for new mail.",
      "MAILPATH\tA colon-separated list of filenames which Bash checks",
      "\t\tfor new mail.",
      "OSTYPE\tThe version of Unix this version of Bash is running on.",
      "PATH\tA colon-separated list of directories to search when",
      "\t\tlooking for commands.",
      "PROMPT_COMMAND\tA command to be executed before the printing of each",
      "\t\tprimary prompt.",
      "PS1\t\tThe primary prompt string.",
      "PS2\t\tThe secondary prompt string.",
      "PWD\t\tThe full pathname of the current directory.",
      "SHELLOPTS\tA colon-separated list of enabled shell options.",
      "TERM\tThe name of the current terminal type.",
      "TIMEFORMAT\tThe output format for timing statistics displayed by the",
      "\t\t`time' reserved word.",
      "auto_resume\tNon-null means a command word appearing on a line by",
      "\t\titself is first looked for in the list of currently",
      "\t\tstopped jobs.  If found there, that job is foregrounded.",
      "\t\tA value of `exact' means that the command word must",
      "\t\texactly match a command in the list of stopped jobs.  A",
      "\t\tvalue of `substring' means that the command word must",
      "\t\tmatch a substring of the job.  Any other value means that",
      "\t\tthe command must be a prefix of a stopped job.",
      "histchars\tCharacters controlling history expansion and quick",
      "\t\tsubstitution.  The first character is the history",
      "\t\tsubstitution character, usually `!'.  The second is",
      "\t\tthe `quick substitution' character, usually `^'.  The",
      "\t\tthird is the `history comment' character, usually `#'.",
      "HISTIGNORE\tA colon-separated list of patterns used to decide which",
      "\t\tcommands should be saved on the history list."]
    isList := true },
  { name := "while"
    synopsis := "while COMMANDS; do COMMANDS-2; done"
    lines := [
      "Execute commands as long as a test succeeds.",
      "",
      "Expand and execute COMMANDS-2 as long as the final command in COMMANDS has",
      "an exit status of zero.",
      "",
      "Exit Status:",
      "Returns the status of the last command executed."] },
  { name := "\x7b ... \x7d"
    synopsis := "\x7b COMMANDS ; \x7d"
    lines := [
      "Group commands as a unit.",
      "",
      "Run a set of commands in a group.  This is one way to redirect an",
      "entire set of commands.",
      "",
      "Exit Status:",
      "Returns the status of the last command executed."] }]

end ShellCoverage.Shell.Manual
