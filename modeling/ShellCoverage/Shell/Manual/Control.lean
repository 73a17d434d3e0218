import ShellCoverage.Shell.Manual.Topic

/-!
# Help: commands that run others, and that wait for them

* `Manual.control` : the topics.
-/

namespace ShellCoverage.Shell.Manual

/-- Topics about commands that run others, and that wait for them. -/
def control : List Topic := [
  { name := "."
    synopsis := ". filename [arguments]"
    lines := [
      "Execute commands from a file in the current shell.",
      "",
      "Read and execute commands from FILENAME in the current shell.  The",
      "entries in $PATH are used to find the directory containing FILENAME.",
      "If any ARGUMENTS are supplied, they become the positional parameters",
      "when FILENAME is executed.",
      "",
      "Exit Status:",
      "Returns the status of the last command executed in FILENAME; fails if",
      "FILENAME cannot be read."] },
  { name := "source"
    synopsis := "source filename [arguments]"
    lines := [
      "Execute commands from a file in the current shell.",
      "",
      "Read and execute commands from FILENAME in the current shell.  The",
      "entries in $PATH are used to find the directory containing FILENAME.",
      "If any ARGUMENTS are supplied, they become the positional parameters",
      "when FILENAME is executed.",
      "",
      "Exit Status:",
      "Returns the status of the last command executed in FILENAME; fails if",
      "FILENAME cannot be read."] },
  { name := "eval"
    synopsis := "eval [arg ...]"
    lines := [
      "Execute arguments as a shell command.",
      "",
      "Combine ARGs into a single string, use the result as input to the shell,",
      "and execute the resulting commands.",
      "",
      "Exit Status:",
      "Returns exit status of command or success if command is null."] },
  { name := "exec"
    synopsis := "exec [-cl] [-a name] [command [argument ...]] [redirection ...]"
    lines := [
      "Replace the shell with the given command.",
      "",
      "Execute COMMAND, replacing this shell with the specified program.",
      "ARGUMENTS become the arguments to COMMAND.  If COMMAND is not specified,",
      "any redirections take effect in the current shell.",
      "",
      "Options:",
      "  -a name\tpass NAME as the zeroth argument to COMMAND",
      "  -c\texecute COMMAND with an empty environment",
      "  -l\tplace a dash in the zeroth argument to COMMAND",
      "",
      "If the command cannot be executed, a non-interactive shell exits, unless",
      "the shell option `execfail' is set.",
      "",
      "Exit Status:",
      "Returns success unless COMMAND is not found or a redirection error occurs."] },
  { name := "command"
    synopsis := "command [-pVv] command [arg ...]"
    lines := [
      "Execute a simple command or display information about commands.",
      "",
      "Runs COMMAND with ARGS suppressing  shell function lookup, or display",
      "information about the specified COMMANDs.  Can be used to invoke commands",
      "on disk when a function with the same name exists.",
      "",
      "Options:",
      "  -p    use a default value for PATH that is guaranteed to find all of",
      "        the standard utilities",
      "  -v    print a description of COMMAND similar to the `type' builtin",
      "  -V    print a more verbose description of each COMMAND",
      "",
      "Exit Status:",
      "Returns exit status of COMMAND, or failure if COMMAND is not found."] },
  { name := "builtin"
    synopsis := "builtin [shell-builtin [arg ...]]"
    lines := [
      "Execute shell builtins.",
      "",
      "Execute SHELL-BUILTIN with arguments ARGs without performing command",
      "lookup.  This is useful when you wish to reimplement a shell builtin",
      "as a shell function, but need to execute the builtin within the function.",
      "",
      "Exit Status:",
      "Returns the exit status of SHELL-BUILTIN, or false if SHELL-BUILTIN is",
      "not a shell builtin."] },
  { name := "caller"
    synopsis := "caller [expr]"
    lines := [
      "Return the context of the current subroutine call.",
      "",
      "Without EXPR, returns \"$line $filename\".  With EXPR, returns",
      "\"$line $subroutine $filename\"; this extra information can be used to",
      "provide a stack trace.",
      "",
      "The value of EXPR indicates how many call frames to go back before the",
      "current one; the top frame is frame 0.",
      "",
      "Exit Status:",
      "Returns 0 unless the shell is not executing a shell function or EXPR",
      "is invalid."] },
  { name := "exit"
    synopsis := "exit [n]"
    lines := [
      "Exit the shell.",
      "",
      "Exits the shell with a status of N.  If N is omitted, the exit status",
      "is that of the last command executed."] },
  { name := "logout"
    synopsis := "logout [n]"
    lines := [
      "Exit a login shell.",
      "",
      "Exits a login shell with exit status N.  Returns an error if not executed",
      "in a login shell."] },
  { name := "return"
    synopsis := "return [n]"
    lines := [
      "Return from a shell function.",
      "",
      "Causes a function or sourced script to exit with the return value",
      "specified by N.  If N is omitted, the return status is that of the",
      "last command executed within the function or script.",
      "",
      "Exit Status:",
      "Returns N, or failure if the shell is not executing a function or script."] },
  { name := "break"
    synopsis := "break [n]"
    lines := [
      "Exit for, while, or until loops.",
      "",
      "Exit a FOR, WHILE or UNTIL loop.  If N is specified, break N enclosing",
      "loops.",
      "",
      "Exit Status:",
      "The exit status is 0 unless N is not greater than or equal to 1."] },
  { name := "continue"
    synopsis := "continue [n]"
    lines := [
      "Resume for, while, or until loops.",
      "",
      "Resumes the next iteration of the enclosing FOR, WHILE or UNTIL loop.",
      "If N is specified, resumes the Nth enclosing loop.",
      "",
      "Exit Status:",
      "The exit status is 0 unless N is not greater than or equal to 1."] },
  { name := "times"
    synopsis := "times"
    lines := [
      "Display process times.",
      "",
      "Prints the accumulated user and system times for the shell and all of its",
      "child processes.",
      "",
      "Exit Status:",
      "Always succeeds."] },
  { name := "trap"
    synopsis := "trap [-lp] [[arg] signal_spec ...]"
    lines := [
      "Trap signals and other events.",
      "",
      "Defines and activates handlers to be run when the shell receives signals",
      "or other conditions.",
      "",
      "ARG is a command to be read and executed when the shell receives the",
      "signal(s) SIGNAL_SPEC.  If ARG is absent (and a single SIGNAL_SPEC",
      "is supplied) or `-', each specified signal is reset to its original",
      "value.  If ARG is the null string each SIGNAL_SPEC is ignored by the",
      "shell and by the commands it invokes.",
      "",
      "If a SIGNAL_SPEC is EXIT (0) ARG is executed on exit from the shell.  If",
      "a SIGNAL_SPEC is DEBUG, ARG is executed before every simple command.  If",
      "a SIGNAL_SPEC is RETURN, ARG is executed each time a shell function or a",
      "script run by the . or source builtins finishes executing.  A SIGNAL_SPEC",
      "of ERR means to execute ARG each time a command's failure would cause the",
      "shell to exit when the -e option is enabled.",
      "",
      "If no arguments are supplied, trap prints the list of commands associated",
      "with each signal.",
      "",
      "Options:",
      "  -l\tprint a list of signal names and their corresponding numbers",
      "  -p\tdisplay the trap commands associated with each SIGNAL_SPEC",
      "",
      "Each SIGNAL_SPEC is either a signal name in <signal.h> or a signal number.",
      "Signal names are case insensitive and the SIG prefix is optional.  A",
      "signal may be sent to the shell with \"kill -signal $$\".",
      "",
      "Exit Status:",
      "Returns success unless a SIGSPEC is invalid or an invalid option is given."] },
  { name := "bg"
    synopsis := "bg [job_spec ...]"
    lines := [
      "Move jobs to the background.",
      "",
      "Place the jobs identified by each JOB_SPEC in the background, as if they",
      "had been started with `&'.  If JOB_SPEC is not present, the shell's notion",
      "of the current job is used.",
      "",
      "Exit Status:",
      "Returns success unless job control is not enabled or an error occurs."] },
  { name := "fg"
    synopsis := "fg [job_spec]"
    lines := [
      "Move job to the foreground.",
      "",
      "Place the job identified by JOB_SPEC in the foreground, making it the",
      "current job.  If JOB_SPEC is not present, the shell's notion of the",
      "current job is used.",
      "",
      "Exit Status:",
      "Status of command placed in foreground, or failure if an error occurs."] },
  { name := "jobs"
    synopsis := "jobs [-lnprs] [jobspec ...] or jobs -x command [args]"
    lines := [
      "Display status of jobs.",
      "",
      "Lists the active jobs.  JOBSPEC restricts output to that job.",
      "Without options, the status of all active jobs is displayed.",
      "",
      "Options:",
      "  -l\tlists process IDs in addition to the normal information",
      "  -n\tlists only processes that have changed status since the last",
      "\t\tnotification",
      "  -p\tlists process IDs only",
      "  -r\trestrict output to running jobs",
      "  -s\trestrict output to stopped jobs",
      "",
      "If -x is supplied, COMMAND is run after all job specifications that",
      "appear in ARGS have been replaced with the process ID of that job's",
      "process group leader.",
      "",
      "Exit Status:",
      "Returns success unless an invalid option is given or an error occurs.",
      "If -x is used, returns the exit status of COMMAND."] },
  { name := "kill"
    synopsis := "kill [-s sigspec | -n signum | -sigspec] pid | jobspec ... or kill -l [sigspec]"
    lines := [
      "Send a signal to a job.",
      "",
      "Send the processes identified by PID or JOBSPEC the signal named by",
      "SIGSPEC or SIGNUM.  If neither SIGSPEC nor SIGNUM is present, then",
      "SIGTERM is assumed.",
      "",
      "Options:",
      "  -s sig\tSIG is a signal name",
      "  -n sig\tSIG is a signal number",
      "  -l\tlist the signal names; if arguments follow `-l' they are",
      "\t\tassumed to be signal numbers for which names should be listed",
      "  -L\tsynonym for -l",
      "",
      "Kill is a shell builtin for two reasons: it allows job IDs to be used",
      "instead of process IDs, and allows processes to be killed if the limit",
      "on processes that you can create is reached.",
      "",
      "Exit Status:",
      "Returns success unless an invalid option is given or an error occurs."] },
  { name := "wait"
    synopsis := "wait [-fn] [-p var] [id ...]"
    lines := [
      "Wait for job completion and return exit status.",
      "",
      "Waits for each process identified by an ID, which may be a process ID or a",
      "job specification, and reports its termination status.  If ID is not",
      "given, waits for all currently active child processes, and the return",
      "status is zero.  If ID is a job specification, waits for all processes",
      "in that job's pipeline.",
      "",
      "If the -n option is supplied, waits for a single job from the list of IDs,",
      "or, if no IDs are supplied, for the next job to complete and returns its",
      "exit status.",
      "",
      "If the -p option is supplied, the process or job identifier of the job",
      "for which the exit status is returned is assigned to the variable VAR",
      "named by the option argument. The variable will be unset initially, before",
      "any assignment. This is useful only when the -n option is supplied.",
      "",
      "If the -f option is supplied, and job control is enabled, waits for the",
      "specified ID to terminate, instead of waiting for it to change status.",
      "",
      "Exit Status:",
      "Returns the status of the last ID; fails if ID is invalid or an invalid",
      "option is given, or if -n is supplied and the shell has no unwaited-for",
      "children."] },
  { name := "disown"
    synopsis := "disown [-h] [-ar] [jobspec ... | pid ...]"
    lines := [
      "Remove jobs from current shell.",
      "",
      "Removes each JOBSPEC argument from the table of active jobs.  Without",
      "any JOBSPECs, the shell uses its notion of the current job.",
      "",
      "Options:",
      "  -a\tremove all jobs if JOBSPEC is not supplied",
      "  -h\tmark each JOBSPEC so that SIGHUP is not sent to the job if the",
      "\t\tshell receives a SIGHUP",
      "  -r\tremove only running jobs",
      "",
      "Exit Status:",
      "Returns success unless an invalid option or JOBSPEC is given."] },
  { name := "suspend"
    synopsis := "suspend [-f]"
    lines := [
      "Suspend shell execution.",
      "",
      "Suspend the execution of this shell until it receives a SIGCONT signal.",
      "Unless forced, login shells and shells without job control cannot be",
      "suspended.",
      "",
      "Options:",
      "  -f\tforce the suspend, even if the shell is a login shell or job",
      "\t\tcontrol is not enabled.",
      "",
      "Exit Status:",
      "Returns success unless job control is not enabled or an error occurs."] }]

end ShellCoverage.Shell.Manual
