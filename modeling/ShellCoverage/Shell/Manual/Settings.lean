import ShellCoverage.Shell.Manual.Topic

/-!
# Help: settings, places and the editing of lines

* `Manual.settings` : the topics.
-/

namespace ShellCoverage.Shell.Manual

/-- Topics about settings, places and the editing of lines. -/
def settings : List Topic := [
  { name := "alias"
    synopsis := "alias [-p] [name[=value] ... ]"
    lines := [
      "Define or display aliases.",
      "",
      "Without arguments, `alias' prints the list of aliases in the reusable",
      "form `alias NAME=VALUE' on standard output.",
      "",
      "Otherwise, an alias is defined for each NAME whose VALUE is given.",
      "A trailing space in VALUE causes the next word to be checked for",
      "alias substitution when the alias is expanded.",
      "",
      "Options:",
      "  -p\tprint all defined aliases in a reusable format",
      "",
      "Exit Status:",
      "alias returns true unless a NAME is supplied for which no alias has been",
      "defined."] },
  { name := "unalias"
    synopsis := "unalias [-a] name [name ...]"
    lines := [
      "Remove each NAME from the list of defined aliases.",
      "",
      "Options:",
      "  -a\tremove all alias definitions",
      "",
      "Return success unless a NAME is not an existing alias."] },
  { name := "set"
    synopsis := "set [-abefhkmnptuvxBCEHPT] [-o option-name] [--] [-] [arg ...]"
    lines := [
      "Set or unset values of shell options and positional parameters.",
      "",
      "Change the value of shell attributes and positional parameters, or",
      "display the names and values of shell variables.",
      "",
      "Options:",
      "  -a  Mark variables which are modified or created for export.",
      "  -b  Notify of job termination immediately.",
      "  -e  Exit immediately if a command exits with a non-zero status.",
      "  -f  Disable file name generation (globbing).",
      "  -h  Remember the location of commands as they are looked up.",
      "  -k  All assignment arguments are placed in the environment for a",
      "      command, not just those that precede the command name.",
      "  -m  Job control is enabled.",
      "  -n  Read commands but do not execute them.",
      "  -o option-name",
      "      Set the variable corresponding to option-name:",
      "          allexport    same as -a",
      "          braceexpand  same as -B",
      "          emacs        use an emacs-style line editing interface",
      "          errexit      same as -e",
      "          errtrace     same as -E",
      "          functrace    same as -T",
      "          hashall      same as -h",
      "          histexpand   same as -H",
      "          history      enable command history",
      "          ignoreeof    the shell will not exit upon reading EOF",
      "          interactive-comments",
      "                       allow comments to appear in interactive commands",
      "          keyword      same as -k",
      "          monitor      same as -m",
      "          noclobber    same as -C",
      "          noexec       same as -n",
      "          noglob       same as -f",
      "          nolog        currently accepted but ignored",
      "          notify       same as -b",
      "          nounset      same as -u",
      "          onecmd       same as -t",
      "          physical     same as -P",
      "          pipefail     the return value of a pipeline is the status of",
      "                       the last command to exit with a non-zero status,",
      "                       or zero if no command exited with a non-zero status",
      "          posix        change the behavior of bash where the default",
      "                       operation differs from the Posix standard to",
      "                       match the standard",
      "          privileged   same as -p",
      "          verbose      same as -v",
      "          vi           use a vi-style line editing interface",
      "          xtrace       same as -x",
      "  -p  Turned on whenever the real and effective user ids do not match.",
      "      Disables processing of the $ENV file and importing of shell",
      "      functions.  Turning this option off causes the effective uid and",
      "      gid to be set to the real uid and gid.",
      "  -t  Exit after reading and executing one command.",
      "  -u  Treat unset variables as an error when substituting.",
      "  -v  Print shell input lines as they are read.",
      "  -x  Print commands and their arguments as they are executed.",
      "  -B  the shell will perform brace expansion",
      "  -C  If set, disallow existing regular files to be overwritten",
      "      by redirection of output.",
      "  -E  If set, the ERR trap is inherited by shell functions.",
      "  -H  Enable ! style history substitution.  This flag is on",
      "      by default when the shell is interactive.",
      "  -P  If set, do not resolve symbolic links when executing commands",
      "      such as cd which change the current directory.",
      "  -T  If set, the DEBUG and RETURN traps are inherited by shell functions.",
      "  --  Assign any remaining arguments to the positional parameters.",
      "      If there are no remaining arguments, the positional parameters",
      "      are unset.",
      "  -   Assign any remaining arguments to the positional parameters.",
      "      The -x and -v options are turned off.",
      "",
      "Using + rather than - causes these flags to be turned off.  The",
      "flags can also be used upon invocation of the shell.  The current",
      "set of flags may be found in $-.  The remaining n ARGs are positional",
      "parameters and are assigned, in order, to $1, $2, .. $n.  If no",
      "ARGs are given, all shell variables are printed.",
      "",
      "Exit Status:",
      "Returns success unless an invalid option is given."] },
  { name := "shopt"
    synopsis := "shopt [-pqsu] [-o] [optname ...]"
    lines := [
      "Set and unset shell options.",
      "",
      "Change the setting of each shell option OPTNAME.  Without any option",
      "arguments, list each supplied OPTNAME, or all shell options if no",
      "OPTNAMEs are given, with an indication of whether or not each is set.",
      "",
      "Options:",
      "  -o\trestrict OPTNAMEs to those defined for use with `set -o'",
      "  -p\tprint each shell option with an indication of its status",
      "  -q\tsuppress output",
      "  -s\tenable (set) each OPTNAME",
      "  -u\tdisable (unset) each OPTNAME",
      "",
      "Exit Status:",
      "Returns success if OPTNAME is enabled; fails if an invalid option is",
      "given or OPTNAME is disabled."] },
  { name := "enable"
    synopsis := "enable [-a] [-dnps] [-f filename] [name ...]"
    lines := [
      "Enable and disable shell builtins.",
      "",
      "Enables and disables builtin shell commands.  Disabling allows you to",
      "execute a disk command which has the same name as a shell builtin",
      "without using a full pathname.",
      "",
      "Options:",
      "  -a\tprint a list of builtins showing whether or not each is enabled",
      "  -n\tdisable each NAME or display a list of disabled builtins",
      "  -p\tprint the list of builtins in a reusable format",
      "  -s\tprint only the names of Posix `special' builtins",
      "",
      "Options controlling dynamic loading:",
      "  -f\tLoad builtin NAME from shared object FILENAME",
      "  -d\tRemove a builtin loaded with -f",
      "",
      "Without options, each NAME is enabled.",
      "",
      "To use the `test' found in $PATH instead of the shell builtin",
      "version, type `enable -n test'.",
      "",
      "Exit Status:",
      "Returns success unless NAME is not a shell builtin or an error occurs."] },
  { name := "help"
    synopsis := "help [-dms] [pattern ...]"
    lines := [
      "Display information about builtin commands.",
      "",
      "Displays brief summaries of builtin commands.  If PATTERN is",
      "specified, gives detailed help on all commands matching PATTERN,",
      "otherwise the list of help topics is printed.",
      "",
      "Options:",
      "  -d\toutput short description for each topic",
      "  -m\tdisplay usage in pseudo-manpage format",
      "  -s\toutput only a short usage synopsis for each topic matching",
      "\t\tPATTERN",
      "",
      "Arguments:",
      "  PATTERN\tPattern specifying a help topic",
      "",
      "Exit Status:",
      "Returns success unless PATTERN is not found or an invalid option is given."] },
  { name := "hash"
    synopsis := "hash [-lr] [-p pathname] [-dt] [name ...]"
    lines := [
      "Remember or display program locations.",
      "",
      "Determine and remember the full pathname of each command NAME.  If",
      "no arguments are given, information about remembered commands is displayed.",
      "",
      "Options:",
      "  -d\tforget the remembered location of each NAME",
      "  -l\tdisplay in a format that may be reused as input",
      "  -p pathname\tuse PATHNAME as the full pathname of NAME",
      "  -r\tforget all remembered locations",
      "  -t\tprint the remembered location of each NAME, preceding",
      "\t\teach location with the corresponding NAME if multiple",
      "\t\tNAMEs are given",
      "Arguments:",
      "  NAME\tEach NAME is searched for in $PATH and added to the list",
      "\t\tof remembered commands.",
      "",
      "Exit Status:",
      "Returns success unless NAME is not found or an invalid option is given."] },
  { name := "type"
    synopsis := "type [-afptP] name [name ...]"
    lines := [
      "Display information about command type.",
      "",
      "For each NAME, indicate how it would be interpreted if used as a",
      "command name.",
      "",
      "Options:",
      "  -a\tdisplay all locations containing an executable named NAME;",
      "\t\tincludes aliases, builtins, and functions, if and only if",
      "\t\tthe `-p' option is not also used",
      "  -f\tsuppress shell function lookup",
      "  -P\tforce a PATH search for each NAME, even if it is an alias,",
      "\t\tbuiltin, or function, and returns the name of the disk file",
      "\t\tthat would be executed",
      "  -p\treturns either the name of the disk file that would be executed,",
      "\t\tor nothing if `type -t NAME' would not return `file'",
      "  -t\toutput a single word which is one of `alias', `keyword',",
      "\t\t`function', `builtin', `file' or `', if NAME is an alias,",
      "\t\tshell reserved word, shell function, shell builtin, disk file,",
      "\t\tor not found, respectively",
      "",
      "Arguments:",
      "  NAME\tCommand name to be interpreted.",
      "",
      "Exit Status:",
      "Returns success if all of the NAMEs are found; fails if any are not found."] },
  { name := "ulimit"
    synopsis := "ulimit [-SHabcdefiklmnpqrstuvxPRT] [limit]"
    lines := [
      "Modify shell resource limits.",
      "",
      "Provides control over the resources available to the shell and processes",
      "it creates, on systems that allow such control.",
      "",
      "Options:",
      "  -S\tuse the `soft' resource limit",
      "  -H\tuse the `hard' resource limit",
      "  -a\tall current limits are reported",
      "  -b\tthe socket buffer size",
      "  -c\tthe maximum size of core files created",
      "  -d\tthe maximum size of a process's data segment",
      "  -e\tthe maximum scheduling priority (`nice')",
      "  -f\tthe maximum size of files written by the shell and its children",
      "  -i\tthe maximum number of pending signals",
      "  -k\tthe maximum number of kqueues allocated for this process",
      "  -l\tthe maximum size a process may lock into memory",
      "  -m\tthe maximum resident set size",
      "  -n\tthe maximum number of open file descriptors",
      "  -p\tthe pipe buffer size",
      "  -q\tthe maximum number of bytes in POSIX message queues",
      "  -r\tthe maximum real-time scheduling priority",
      "  -s\tthe maximum stack size",
      "  -t\tthe maximum amount of cpu time in seconds",
      "  -u\tthe maximum number of user processes",
      "  -v\tthe size of virtual memory",
      "  -x\tthe maximum number of file locks",
      "  -P\tthe maximum number of pseudoterminals",
      "  -R\tthe maximum time a real-time process can run before blocking",
      "  -T\tthe maximum number of threads",
      "",
      "Not all options are available on all platforms.",
      "",
      "If LIMIT is given, it is the new value of the specified resource; the",
      "special LIMIT values `soft', `hard', and `unlimited' stand for the",
      "current soft limit, the current hard limit, and no limit, respectively.",
      "Otherwise, the current value of the specified resource is printed.  If",
      "no option is given, then -f is assumed.",
      "",
      "Values are in 1024-byte increments, except for -t, which is in seconds,",
      "-p, which is in increments of 512 bytes, and -u, which is an unscaled",
      "number of processes.",
      "",
      "Exit Status:",
      "Returns success unless an invalid option is supplied or an error occurs."] },
  { name := "umask"
    synopsis := "umask [-p] [-S] [mode]"
    lines := [
      "Display or set file mode mask.",
      "",
      "Sets the user file-creation mask to MODE.  If MODE is omitted, prints",
      "the current value of the mask.",
      "",
      "If MODE begins with a digit, it is interpreted as an octal number;",
      "otherwise it is a symbolic mode string like that accepted by chmod(1).",
      "",
      "Options:",
      "  -p\tif MODE is omitted, output in a form that may be reused as input",
      "  -S\tmakes the output symbolic; otherwise an octal number is output",
      "",
      "Exit Status:",
      "Returns success unless MODE is invalid or an invalid option is given."] },
  { name := "cd"
    synopsis := "cd [-L|[-P [-e]] [-@]] [dir]"
    lines := [
      "Change the shell working directory.",
      "",
      "Change the current directory to DIR.  The default DIR is the value of the",
      "HOME shell variable. If DIR is \"-\", it is converted to $OLDPWD.",
      "",
      "The variable CDPATH defines the search path for the directory containing",
      "DIR.  Alternative directory names in CDPATH are separated by a colon (:).",
      "A null directory name is the same as the current directory.  If DIR begins",
      "with a slash (/), then CDPATH is not used.",
      "",
      "If the directory is not found, and the shell option `cdable_vars' is set,",
      "the word is assumed to be  a variable name.  If that variable has a value,",
      "its value is used for DIR.",
      "",
      "Options:",
      "  -L\tforce symbolic links to be followed: resolve symbolic",
      "\t\tlinks in DIR after processing instances of `..'",
      "  -P\tuse the physical directory structure without following",
      "\t\tsymbolic links: resolve symbolic links in DIR before",
      "\t\tprocessing instances of `..'",
      "  -e\tif the -P option is supplied, and the current working",
      "\t\tdirectory cannot be determined successfully, exit with",
      "\t\ta non-zero status",
      "  -@\ton systems that support it, present a file with extended",
      "\t\tattributes as a directory containing the file attributes",
      "",
      "The default is to follow symbolic links, as if `-L' were specified.",
      "`..' is processed by removing the immediately previous pathname component",
      "back to a slash or the beginning of DIR.",
      "",
      "Exit Status:",
      "Returns 0 if the directory is changed, and if $PWD is set successfully when",
      "-P is used; non-zero otherwise."] },
  { name := "pwd"
    synopsis := "pwd [-LP]"
    lines := [
      "Print the name of the current working directory.",
      "",
      "Options:",
      "  -L\tprint the value of $PWD if it names the current working",
      "\t\tdirectory",
      "  -P\tprint the physical directory, without any symbolic links",
      "",
      "By default, `pwd' behaves as if `-L' were specified.",
      "",
      "Exit Status:",
      "Returns 0 unless an invalid option is given or the current directory",
      "cannot be read."] },
  { name := "pushd"
    synopsis := "pushd [-n] [+N | -N | dir]"
    lines := [
      "Add directories to stack.",
      "",
      "Adds a directory to the top of the directory stack, or rotates",
      "the stack, making the new top of the stack the current working",
      "directory.  With no arguments, exchanges the top two directories.",
      "",
      "Options:",
      "  -n\tSuppresses the normal change of directory when adding",
      "\t\tdirectories to the stack, so only the stack is manipulated.",
      "",
      "Arguments:",
      "  +N\tRotates the stack so that the Nth directory (counting",
      "\t\tfrom the left of the list shown by `dirs', starting with",
      "\t\tzero) is at the top.",
      "",
      "  -N\tRotates the stack so that the Nth directory (counting",
      "\t\tfrom the right of the list shown by `dirs', starting with",
      "\t\tzero) is at the top.",
      "",
      "  dir\tAdds DIR to the directory stack at the top, making it the",
      "\t\tnew current working directory.",
      "",
      "The `dirs' builtin displays the directory stack.",
      "",
      "Exit Status:",
      "Returns success unless an invalid argument is supplied or the directory",
      "change fails."] },
  { name := "popd"
    synopsis := "popd [-n] [+N | -N]"
    lines := [
      "Remove directories from stack.",
      "",
      "Removes entries from the directory stack.  With no arguments, removes",
      "the top directory from the stack, and changes to the new top directory.",
      "",
      "Options:",
      "  -n\tSuppresses the normal change of directory when removing",
      "\t\tdirectories from the stack, so only the stack is manipulated.",
      "",
      "Arguments:",
      "  +N\tRemoves the Nth entry counting from the left of the list",
      "\t\tshown by `dirs', starting with zero.  For example: `popd +0'",
      "\t\tremoves the first directory, `popd +1' the second.",
      "",
      "  -N\tRemoves the Nth entry counting from the right of the list",
      "\t\tshown by `dirs', starting with zero.  For example: `popd -0'",
      "\t\tremoves the last directory, `popd -1' the next to last.",
      "",
      "The `dirs' builtin displays the directory stack.",
      "",
      "Exit Status:",
      "Returns success unless an invalid argument is supplied or the directory",
      "change fails."] },
  { name := "dirs"
    synopsis := "dirs [-clpv] [+N] [-N]"
    lines := [
      "Display directory stack.",
      "",
      "Display the list of currently remembered directories.  Directories",
      "find their way onto the list with the `pushd' command; you can get",
      "back up through the list with the `popd' command.",
      "",
      "Options:",
      "  -c\tclear the directory stack by deleting all of the elements",
      "  -l\tdo not print tilde-prefixed versions of directories relative",
      "\t\tto your home directory",
      "  -p\tprint the directory stack with one entry per line",
      "  -v\tprint the directory stack with one entry per line prefixed",
      "\t\twith its position in the stack",
      "",
      "Arguments:",
      "  +N\tDisplays the Nth entry counting from the left of the list",
      "\t\tshown by dirs when invoked without options, starting with",
      "\t\tzero.",
      "",
      "  -N\tDisplays the Nth entry counting from the right of the list",
      "\t\tshown by dirs when invoked without options, starting with",
      "\t\tzero.",
      "",
      "Exit Status:",
      "Returns success unless an invalid option is supplied or an error occurs."] },
  { name := "bind"
    synopsis := "bind [-lpsvPSVX] [-m keymap] [-f filename] [-q name] [-u name] [-r keyseq] [-x " ++
      "keyseq:shell-command] [keyseq:readline-function or readline-command]"
    lines := [
      "Set Readline key bindings and variables.",
      "",
      "Bind a key sequence to a Readline function or a macro, or set a",
      "Readline variable.  The non-option argument syntax is equivalent to",
      "that found in ~/.inputrc, but must be passed as a single argument:",
      "e.g., bind '\"\\C-x\\C-r\": re-read-init-file'.",
      "",
      "Options:",
      "  -m  keymap         Use KEYMAP as the keymap for the duration of this",
      "                     command.  Acceptable keymap names are emacs,",
      "                     emacs-standard, emacs-meta, emacs-ctlx, vi, vi-move,",
      "                     vi-command, and vi-insert.",
      "  -l                 List names of functions.",
      "  -P                 List function names and bindings.",
      "  -p                 List functions and bindings in a form that can be",
      "                     reused as input.",
      "  -S                 List key sequences that invoke macros and their values",
      "  -s                 List key sequences that invoke macros and their values",
      "                     in a form that can be reused as input.",
      "  -V                 List variable names and values",
      "  -v                 List variable names and values in a form that can",
      "                     be reused as input.",
      "  -q  function-name  Query about which keys invoke the named function.",
      "  -u  function-name  Unbind all keys which are bound to the named function.",
      "  -r  keyseq         Remove the binding for KEYSEQ.",
      "  -f  filename       Read key bindings from FILENAME.",
      "  -x  keyseq:shell-command\tCause SHELL-COMMAND to be executed when",
      "\t\t\t\tKEYSEQ is entered.",
      "  -X                 List key sequences bound with -x and associated commands",
      "                     in a form that can be reused as input.",
      "",
      "Exit Status:",
      "bind returns 0 unless an unrecognized option is given or an error occurs."] },
  { name := "complete"
    synopsis := "complete [-abcdefgjksuv] [-pr] [-DEI] [-o option] [-A action] [-G globpat] [-W " ++
      "wordlist] [-F function] [-C command] [-X filterpat] [-P prefix] [-S suffix] " ++
      "[name ...]"
    lines := [
      "Specify how arguments are to be completed by Readline.",
      "",
      "For each NAME, specify how arguments are to be completed.  If no options",
      "are supplied, existing completion specifications are printed in a way that",
      "allows them to be reused as input.",
      "",
      "Options:",
      "  -p\tprint existing completion specifications in a reusable format",
      "  -r\tremove a completion specification for each NAME, or, if no",
      "\t\tNAMEs are supplied, all completion specifications",
      "  -D\tapply the completions and actions as the default for commands",
      "\t\twithout any specific completion defined",
      "  -E\tapply the completions and actions to \"empty\" commands --",
      "\t\tcompletion attempted on a blank line",
      "  -I\tapply the completions and actions to the initial (usually the",
      "\t\tcommand) word",
      "",
      "When completion is attempted, the actions are applied in the order the",
      "uppercase-letter options are listed above. If multiple options are supplied,",
      "the -D option takes precedence over -E, and both take precedence over -I.",
      "",
      "Exit Status:",
      "Returns success unless an invalid option is supplied or an error occurs."] },
  { name := "compgen"
    synopsis := "compgen [-abcdefgjksuv] [-o option] [-A action] [-G globpat] [-W wordlist] [-F " ++
      "function] [-C command] [-X filterpat] [-P prefix] [-S suffix] [word]"
    lines := [
      "Display possible completions depending on the options.",
      "",
      "Intended to be used from within a shell function generating possible",
      "completions.  If the optional WORD argument is supplied, matches against",
      "WORD are generated.",
      "",
      "Exit Status:",
      "Returns success unless an invalid option is supplied or an error occurs."] },
  { name := "compopt"
    synopsis := "compopt [-o|+o option] [-DEI] [name ...]"
    lines := [
      "Modify or display completion options.",
      "",
      "Modify the completion options for each NAME, or, if no NAMEs are supplied,",
      "the completion currently being executed.  If no OPTIONs are given, print",
      "the completion options for each NAME or the current completion specification.",
      "",
      "Options:",
      "\t-o option\tSet completion option OPTION for each NAME",
      "\t-D\t\tChange options for the \"default\" command completion",
      "\t-E\t\tChange options for the \"empty\" command completion",
      "\t-I\t\tChange options for completion on the initial word",
      "",
      "Using `+o' instead of `-o' turns off the specified option.",
      "",
      "Arguments:",
      "",
      "Each NAME refers to a command for which a completion specification must",
      "have previously been defined using the `complete' builtin.  If no NAMEs",
      "are supplied, compopt must be called by a function currently generating",
      "completions, and the options for that currently-executing completion",
      "generator are modified.",
      "",
      "Exit Status:",
      "Returns success unless an invalid option is supplied or NAME does not",
      "have a completion specification defined."] },
  { name := "history"
    synopsis := "history [-c] [-d offset] [n] or history -anrw [filename] or history -ps arg " ++
      "[arg...]"
    lines := [
      "Display or manipulate the history list.",
      "",
      "Display the history list with line numbers, prefixing each modified",
      "entry with a `*'.  An argument of N lists only the last N entries.",
      "",
      "Options:",
      "  -c\tclear the history list by deleting all of the entries",
      "  -d offset\tdelete the history entry at position OFFSET. Negative",
      "\t\toffsets count back from the end of the history list",
      "",
      "  -a\tappend history lines from this session to the history file",
      "  -n\tread all history lines not already read from the history file",
      "\t\tand append them to the history list",
      "  -r\tread the history file and append the contents to the history",
      "\t\tlist",
      "  -w\twrite the current history to the history file",
      "",
      "  -p\tperform history expansion on each ARG and display the result",
      "\t\twithout storing it in the history list",
      "  -s\tappend the ARGs to the history list as a single entry",
      "",
      "If FILENAME is given, it is used as the history file.  Otherwise,",
      "if HISTFILE has a value, that is used, else ~/.bash_history.",
      "",
      "If the HISTTIMEFORMAT variable is set and not null, its value is used",
      "as a format string for strftime(3) to print the time stamp associated",
      "with each displayed history entry.  No time stamps are printed otherwise.",
      "",
      "Exit Status:",
      "Returns success unless an invalid option is given or an error occurs."] },
  { name := "fc"
    synopsis := "fc [-e ename] [-lnr] [first] [last] or fc -s [pat=rep] [command]"
    lines := [
      "Display or execute commands from the history list.",
      "",
      "fc is used to list or edit and re-execute commands from the history list.",
      "FIRST and LAST can be numbers specifying the range, or FIRST can be a",
      "string, which means the most recent command beginning with that",
      "string.",
      "",
      "Options:",
      "  -e ENAME\tselect which editor to use.  Default is FCEDIT, then EDITOR,",
      "\t\tthen vi",
      "  -l \tlist lines instead of editing",
      "  -n\tomit line numbers when listing",
      "  -r\treverse the order of the lines (newest listed first)",
      "",
      "With the `fc -s [pat=rep ...] [command]' format, COMMAND is",
      "re-executed after the substitution OLD=NEW is performed.",
      "",
      "A useful alias to use with this is r='fc -s', so that typing `r cc'",
      "runs the last command beginning with `cc' and typing `r' re-executes",
      "the last command.",
      "",
      "Exit Status:",
      "Returns success or status of executed command; non-zero if an error occurs."] }]

end ShellCoverage.Shell.Manual
