import ShellCoverage.Shell.Manual.Topic

/-!
# Help: variables, arguments and texts

* `Manual.names` : the topics.
-/

namespace ShellCoverage.Shell.Manual

/-- Topics about variables, arguments and texts. -/
def names : List Topic := [
  { name := "["
    synopsis := "[ arg... ]"
    lines := [
      "Evaluate conditional expression.",
      "",
      "This is a synonym for the \"test\" builtin, but the last argument must",
      "be a literal `]', to match the opening `['."] },
  { name := "test"
    synopsis := "test [expr]"
    lines := [
      "Evaluate conditional expression.",
      "",
      "Exits with a status of 0 (true) or 1 (false) depending on",
      "the evaluation of EXPR.  Expressions may be unary or binary.  Unary",
      "expressions are often used to examine the status of a file.  There",
      "are string operators and numeric comparison operators as well.",
      "",
      "The behavior of test depends on the number of arguments.  Read the",
      "bash manual page for the complete specification.",
      "",
      "File operators:",
      "",
      "  -a FILE        True if file exists.",
      "  -b FILE        True if file is block special.",
      "  -c FILE        True if file is character special.",
      "  -d FILE        True if file is a directory.",
      "  -e FILE        True if file exists.",
      "  -f FILE        True if file exists and is a regular file.",
      "  -g FILE        True if file is set-group-id.",
      "  -h FILE        True if file is a symbolic link.",
      "  -L FILE        True if file is a symbolic link.",
      "  -k FILE        True if file has its `sticky' bit set.",
      "  -p FILE        True if file is a named pipe.",
      "  -r FILE        True if file is readable by you.",
      "  -s FILE        True if file exists and is not empty.",
      "  -S FILE        True if file is a socket.",
      "  -t FD          True if FD is opened on a terminal.",
      "  -u FILE        True if the file is set-user-id.",
      "  -w FILE        True if the file is writable by you.",
      "  -x FILE        True if the file is executable by you.",
      "  -O FILE        True if the file is effectively owned by you.",
      "  -G FILE        True if the file is effectively owned by your group.",
      "  -N FILE        True if the file has been modified since it was last read.",
      "",
      "  FILE1 -nt FILE2  True if file1 is newer than file2 (according to",
      "                   modification date).",
      "",
      "  FILE1 -ot FILE2  True if file1 is older than file2.",
      "",
      "  FILE1 -ef FILE2  True if file1 is a hard link to file2.",
      "",
      "All file operators except -h and -L are acting on the target of a symbolic",
      "link, not on the symlink itself, if FILE is a symbolic link.",
      "",
      "String operators:",
      "",
      "  -z STRING      True if string is empty.",
      "",
      "  -n STRING",
      "     STRING      True if string is not empty.",
      "",
      "  STRING1 = STRING2",
      "                 True if the strings are equal.",
      "  STRING1 != STRING2",
      "                 True if the strings are not equal.",
      "  STRING1 < STRING2",
      "                 True if STRING1 sorts before STRING2 lexicographically.",
      "  STRING1 > STRING2",
      "                 True if STRING1 sorts after STRING2 lexicographically.",
      "",
      "Other operators:",
      "",
      "  -o OPTION      True if the shell option OPTION is enabled.",
      "  -v VAR         True if the shell variable VAR is set.",
      "  -R VAR         True if the shell variable VAR is set and is a name",
      "                 reference.",
      "  ! EXPR         True if expr is false.",
      "  EXPR1 -a EXPR2 True if both expr1 AND expr2 are true.",
      "  EXPR1 -o EXPR2 True if either expr1 OR expr2 is true.",
      "",
      "  arg1 OP arg2   Arithmetic tests.  OP is one of -eq, -ne,",
      "                 -lt, -le, -gt, or -ge.",
      "",
      "Arithmetic binary operators return true if ARG1 is equal, not-equal,",
      "less-than, less-than-or-equal, greater-than, or greater-than-or-equal",
      "than ARG2.",
      "",
      "See the bash manual page bash(1) for the handling of parameters (i.e.",
      "missing parameters).",
      "",
      "Exit Status:",
      "Returns success if EXPR evaluates to true; fails if EXPR evaluates to",
      "false or an invalid argument is given."] },
  { name := "echo"
    synopsis := "echo [-neE] [arg ...]"
    lines := [
      "Write arguments to the standard output.",
      "",
      "Display the ARGs, separated by a single space character and followed by a",
      "newline, on the standard output.",
      "",
      "Options:",
      "  -n\tdo not append a newline",
      "  -e\tenable interpretation of the following backslash escapes",
      "  -E\texplicitly suppress interpretation of backslash escapes",
      "",
      "`echo' interprets the following backslash-escaped characters:",
      "  \\a\talert (bell)",
      "  \\b\tbackspace",
      "  \\c\tsuppress further output",
      "  \\e\tescape character",
      "  \\E\tescape character",
      "  \\f\tform feed",
      "  \\n\tnew line",
      "  \\r\tcarriage return",
      "  \\t\thorizontal tab",
      "  \\v\tvertical tab",
      "  \\\\\tbackslash",
      "  \\0nnn\tthe character whose ASCII code is NNN (octal).  NNN can be",
      "\t\t0 to 3 octal digits",
      "  \\xHH\tthe eight-bit character whose value is HH (hexadecimal).  HH",
      "\t\tcan be one or two hex digits",
      "  \\uHHHH\tthe Unicode character whose value is the hexadecimal value HHHH.",
      "\t\tHHHH can be one to four hex digits.",
      "  \\UHHHHHHHH the Unicode character whose value is the hexadecimal value",
      "\t\tHHHHHHHH. HHHHHHHH can be one to eight hex digits.",
      "",
      "Exit Status:",
      "Returns success unless a write error occurs."] },
  { name := "printf"
    synopsis := "printf [-v var] format [arguments]"
    lines := [
      "Formats and prints ARGUMENTS under control of the FORMAT.",
      "",
      "Options:",
      "  -v var\tassign the output to shell variable VAR rather than",
      "\t\tdisplay it on the standard output",
      "",
      "FORMAT is a character string which contains three types of objects: plain",
      "characters, which are simply copied to standard output; character escape",
      "sequences, which are converted and copied to the standard output; and",
      "format specifications, each of which causes printing of the next successive",
      "argument.",
      "",
      "In addition to the standard format specifications described in printf(1),",
      "printf interprets:",
      "",
      "  %b\texpand backslash escape sequences in the corresponding argument",
      "  %q\tquote the argument in a way that can be reused as shell input",
      "  %Q\tlike %q, but apply any precision to the unquoted argument before",
      "\t\tquoting",
      "  %(fmt)T\toutput the date-time string resulting from using FMT as a format",
      "\t        string for strftime(3)",
      "",
      "The format is re-used as necessary to consume all of the arguments.  If",
      "there are fewer arguments than the format requires,  extra format",
      "specifications behave as if a zero value or null string, as appropriate,",
      "had been supplied.",
      "",
      "Exit Status:",
      "Returns success unless an invalid option is given or a write or assignment",
      "error occurs."] },
  { name := "read"
    synopsis := "read [-ers] [-a array] [-d delim] [-i text] [-n nchars] [-N nchars] [-p prompt] " ++
      "[-t timeout] [-u fd] [name ...]"
    lines := [
      "Read a line from the standard input and split it into fields.",
      "",
      "Reads a single line from the standard input, or from file descriptor FD",
      "if the -u option is supplied.  The line is split into fields as with word",
      "splitting, and the first word is assigned to the first NAME, the second",
      "word to the second NAME, and so on, with any leftover words assigned to",
      "the last NAME.  Only the characters found in $IFS are recognized as word",
      "delimiters. By default, the backslash character escapes delimiter characters",
      "and newline.",
      "",
      "If no NAMEs are supplied, the line read is stored in the REPLY variable.",
      "",
      "Options:",
      "  -a array\tassign the words read to sequential indices of the array",
      "\t\tvariable ARRAY, starting at zero",
      "  -d delim\tcontinue until the first character of DELIM is read, rather",
      "\t\tthan newline",
      "  -e\tuse Readline to obtain the line",
      "  -i text\tuse TEXT as the initial text for Readline",
      "  -n nchars\treturn after reading NCHARS characters rather than waiting",
      "\t\tfor a newline, but honor a delimiter if fewer than",
      "\t\tNCHARS characters are read before the delimiter",
      "  -N nchars\treturn only after reading exactly NCHARS characters, unless",
      "\t\tEOF is encountered or read times out, ignoring any",
      "\t\tdelimiter",
      "  -p prompt\toutput the string PROMPT without a trailing newline before",
      "\t\tattempting to read",
      "  -r\tdo not allow backslashes to escape any characters",
      "  -s\tdo not echo input coming from a terminal",
      "  -t timeout\ttime out and return failure if a complete line of",
      "\t\tinput is not read within TIMEOUT seconds.  The value of the",
      "\t\tTMOUT variable is the default timeout.  TIMEOUT may be a",
      "\t\tfractional number.  If TIMEOUT is 0, read returns",
      "\t\timmediately, without trying to read any data, returning",
      "\t\tsuccess only if input is available on the specified",
      "\t\tfile descriptor.  The exit status is greater than 128",
      "\t\tif the timeout is exceeded",
      "  -u fd\tread from file descriptor FD instead of the standard input",
      "",
      "Exit Status:",
      "The return code is zero, unless end-of-file is encountered, read times out",
      "(in which case it's greater than 128), a variable assignment error occurs,",
      "or an invalid file descriptor is supplied as the argument to -u."] },
  { name := "mapfile"
    synopsis := "mapfile [-d delim] [-n count] [-O origin] [-s count] [-t] [-u fd] [-C callback] " ++
      "[-c quantum] [array]"
    lines := [
      "Read lines from the standard input into an indexed array variable.",
      "",
      "Read lines from the standard input into the indexed array variable ARRAY, or",
      "from file descriptor FD if the -u option is supplied.  The variable MAPFILE",
      "is the default ARRAY.",
      "",
      "Options:",
      "  -d delim\tUse DELIM to terminate lines, instead of newline",
      "  -n count\tCopy at most COUNT lines.  If COUNT is 0, all lines are copied",
      "  -O origin\tBegin assigning to ARRAY at index ORIGIN.  The default index is 0",
      "  -s count\tDiscard the first COUNT lines read",
      "  -t\tRemove a trailing DELIM from each line read (default newline)",
      "  -u fd\tRead lines from file descriptor FD instead of the standard input",
      "  -C callback\tEvaluate CALLBACK each time QUANTUM lines are read",
      "  -c quantum\tSpecify the number of lines read between each call to",
      "\t\t\tCALLBACK",
      "",
      "Arguments:",
      "  ARRAY\tArray variable name to use for file data",
      "",
      "If -C is supplied without -c, the default quantum is 5000.  When",
      "CALLBACK is evaluated, it is supplied the index of the next array",
      "element to be assigned and the line to be assigned to that element",
      "as additional arguments.",
      "",
      "If not supplied with an explicit origin, mapfile will clear ARRAY before",
      "assigning to it.",
      "",
      "Exit Status:",
      "Returns success unless an invalid option is given or ARRAY is readonly or",
      "not an indexed array."] },
  { name := "readarray"
    synopsis := "readarray [-d delim] [-n count] [-O origin] [-s count] [-t] [-u fd] [-C " ++
      "callback] [-c quantum] [array]"
    lines := [
      "Read lines from a file into an array variable.",
      "",
      "A synonym for `mapfile'."] },
  { name := "let"
    synopsis := "let arg [arg ...]"
    lines := [
      "Evaluate arithmetic expressions.",
      "",
      "Evaluate each ARG as an arithmetic expression.  Evaluation is done in",
      "fixed-width integers with no check for overflow, though division by 0",
      "is trapped and flagged as an error.  The following list of operators is",
      "grouped into levels of equal-precedence operators.  The levels are listed",
      "in order of decreasing precedence.",
      "",
      "\tid++, id--\tvariable post-increment, post-decrement",
      "\t++id, --id\tvariable pre-increment, pre-decrement",
      "\t-, +\t\tunary minus, plus",
      "\t!, ~\t\tlogical and bitwise negation",
      "\t**\t\texponentiation",
      "\t*, /, %\t\tmultiplication, division, remainder",
      "\t+, -\t\taddition, subtraction",
      "\t<<, >>\t\tleft and right bitwise shifts",
      "\t<=, >=, <, >\tcomparison",
      "\t==, !=\t\tequality, inequality",
      "\t&\t\tbitwise AND",
      "\t^\t\tbitwise XOR",
      "\t|\t\tbitwise OR",
      "\t&&\t\tlogical AND",
      "\t||\t\tlogical OR",
      "\texpr ? expr : expr",
      "\t\t\tconditional operator",
      "\t=, *=, /=, %=,",
      "\t+=, -=, <<=, >>=,",
      "\t&=, ^=, |=\tassignment",
      "",
      "Shell variables are allowed as operands.  The name of the variable",
      "is replaced by its value (coerced to a fixed-width integer) within",
      "an expression.  The variable need not have its integer attribute",
      "turned on to be used in an expression.",
      "",
      "Operators are evaluated in order of precedence.  Sub-expressions in",
      "parentheses are evaluated first and may override the precedence",
      "rules above.",
      "",
      "Exit Status:",
      "If the last ARG evaluates to 0, let returns 1; let returns 0 otherwise."] },
  { name := "shift"
    synopsis := "shift [n]"
    lines := [
      "Shift positional parameters.",
      "",
      "Rename the positional parameters $N+1,$N+2 ... to $1,$2 ...  If N is",
      "not given, it is assumed to be 1.",
      "",
      "Exit Status:",
      "Returns success unless N is negative or greater than $#."] },
  { name := "getopts"
    synopsis := "getopts optstring name [arg ...]"
    lines := [
      "Parse option arguments.",
      "",
      "Getopts is used by shell procedures to parse positional parameters",
      "as options.",
      "",
      "OPTSTRING contains the option letters to be recognized; if a letter",
      "is followed by a colon, the option is expected to have an argument,",
      "which should be separated from it by white space.",
      "",
      "Each time it is invoked, getopts will place the next option in the",
      "shell variable $name, initializing name if it does not exist, and",
      "the index of the next argument to be processed into the shell",
      "variable OPTIND.  OPTIND is initialized to 1 each time the shell or",
      "a shell script is invoked.  When an option requires an argument,",
      "getopts places that argument into the shell variable OPTARG.",
      "",
      "getopts reports errors in one of two ways.  If the first character",
      "of OPTSTRING is a colon, getopts uses silent error reporting.  In",
      "this mode, no error messages are printed.  If an invalid option is",
      "seen, getopts places the option character found into OPTARG.  If a",
      "required argument is not found, getopts places a ':' into NAME and",
      "sets OPTARG to the option character found.  If getopts is not in",
      "silent mode, and an invalid option is seen, getopts places '?' into",
      "NAME and unsets OPTARG.  If a required argument is not found, a '?'",
      "is placed in NAME, OPTARG is unset, and a diagnostic message is",
      "printed.",
      "",
      "If the shell variable OPTERR has the value 0, getopts disables the",
      "printing of error messages, even if the first character of",
      "OPTSTRING is not a colon.  OPTERR has the value 1 by default.",
      "",
      "Getopts normally parses the positional parameters, but if arguments",
      "are supplied as ARG values, they are parsed instead.",
      "",
      "Exit Status:",
      "Returns success if an option is found; fails if the end of options is",
      "encountered or an error occurs."] },
  { name := "declare"
    synopsis := "declare [-aAfFgiIlnrtux] [name[=value] ...] or declare -p [-aAfFilnrtux] [name " ++
      "...]"
    lines := [
      "Set variable values and attributes.",
      "",
      "Declare variables and give them attributes.  If no NAMEs are given,",
      "display the attributes and values of all variables.",
      "",
      "Options:",
      "  -f\trestrict action or display to function names and definitions",
      "  -F\trestrict display to function names only (plus line number and",
      "\t\tsource file when debugging)",
      "  -g\tcreate global variables when used in a shell function; otherwise",
      "\t\tignored",
      "  -I\tif creating a local variable, inherit the attributes and value",
      "\t\tof a variable with the same name at a previous scope",
      "  -p\tdisplay the attributes and value of each NAME",
      "",
      "Options which set attributes:",
      "  -a\tto make NAMEs indexed arrays (if supported)",
      "  -A\tto make NAMEs associative arrays (if supported)",
      "  -i\tto make NAMEs have the `integer' attribute",
      "  -l\tto convert the value of each NAME to lower case on assignment",
      "  -n\tmake NAME a reference to the variable named by its value",
      "  -r\tto make NAMEs readonly",
      "  -t\tto make NAMEs have the `trace' attribute",
      "  -u\tto convert the value of each NAME to upper case on assignment",
      "  -x\tto make NAMEs export",
      "",
      "Using `+' instead of `-' turns off the given attribute.",
      "",
      "Variables with the integer attribute have arithmetic evaluation (see",
      "the `let' command) performed when the variable is assigned a value.",
      "",
      "When used in a function, `declare' makes NAMEs local, as with the `local'",
      "command.  The `-g' option suppresses this behavior.",
      "",
      "Exit Status:",
      "Returns success unless an invalid option is supplied or a variable",
      "assignment error occurs."] },
  { name := "typeset"
    synopsis := "typeset [-aAfFgiIlnrtux] name[=value] ... or typeset -p [-aAfFilnrtux] [name " ++
      "...]"
    lines := [
      "Set variable values and attributes.",
      "",
      "A synonym for `declare'.  See `help declare'."] },
  { name := "local"
    synopsis := "local [option] name[=value] ..."
    lines := [
      "Define local variables.",
      "",
      "Create a local variable called NAME, and give it VALUE.  OPTION can",
      "be any option accepted by `declare'.",
      "",
      "Local variables can only be used within a function; they are visible",
      "only to the function where they are defined and its children.",
      "",
      "Exit Status:",
      "Returns success unless an invalid option is supplied, a variable",
      "assignment error occurs, or the shell is not executing a function."] },
  { name := "export"
    synopsis := "export [-fn] [name[=value] ...] or export -p"
    lines := [
      "Set export attribute for shell variables.",
      "",
      "Marks each NAME for automatic export to the environment of subsequently",
      "executed commands.  If VALUE is supplied, assign VALUE before exporting.",
      "",
      "Options:",
      "  -f\trefer to shell functions",
      "  -n\tremove the export property from each NAME",
      "  -p\tdisplay a list of all exported variables and functions",
      "",
      "An argument of `--' disables further option processing.",
      "",
      "Exit Status:",
      "Returns success unless an invalid option is given or NAME is invalid."] },
  { name := "readonly"
    synopsis := "readonly [-aAf] [name[=value] ...] or readonly -p"
    lines := [
      "Mark shell variables as unchangeable.",
      "",
      "Mark each NAME as read-only; the values of these NAMEs may not be",
      "changed by subsequent assignment.  If VALUE is supplied, assign VALUE",
      "before marking as read-only.",
      "",
      "Options:",
      "  -a\trefer to indexed array variables",
      "  -A\trefer to associative array variables",
      "  -f\trefer to shell functions",
      "  -p\tdisplay a list of all readonly variables or functions,",
      "\t\tdepending on whether or not the -f option is given",
      "",
      "An argument of `--' disables further option processing.",
      "",
      "Exit Status:",
      "Returns success unless an invalid option is given or NAME is invalid."] },
  { name := "unset"
    synopsis := "unset [-f] [-v] [-n] [name ...]"
    lines := [
      "Unset values and attributes of shell variables and functions.",
      "",
      "For each NAME, remove the corresponding variable or function.",
      "",
      "Options:",
      "  -f\ttreat each NAME as a shell function",
      "  -v\ttreat each NAME as a shell variable",
      "  -n\ttreat each NAME as a name reference and unset the variable itself",
      "\t\trather than the variable it references",
      "",
      "Without options, unset first tries to unset a variable, and if that fails,",
      "tries to unset a function.",
      "",
      "Some variables cannot be unset; also see `readonly'.",
      "",
      "Exit Status:",
      "Returns success unless an invalid option is given or a NAME is read-only."] },
  { name := ":"
    synopsis := ":"
    lines := [
      "Null command.",
      "",
      "No effect; the command does nothing.",
      "",
      "Exit Status:",
      "Always succeeds."] },
  { name := "true"
    synopsis := "true"
    lines := [
      "Return a successful result.",
      "",
      "Exit Status:",
      "Always succeeds."] },
  { name := "false"
    synopsis := "false"
    lines := [
      "Return an unsuccessful result.",
      "",
      "Exit Status:",
      "Always fails."] }]

end ShellCoverage.Shell.Manual
