import SchemeCheck.Text.Basic

/-!
# SchemeCheck.CommandLine.CompletionScript

The shells whose command lines can be completed, and the scripts by which they
learn to ask.
-/

namespace SchemeCheck.CommandLine

/-- A shell that can ask for completions. -/
inductive Shell where
  | bash
  | zsh
  | fish
  deriving DecidableEq

namespace Shell

def all : List (String × Shell) :=
  [("bash", bash), ("zsh", zsh), ("fish", fish)]

def scriptRows : Shell → List String
  | bash =>
    [ "_cli_completion() \x7b",
      "    local IFS=$'\\n'",
      "    local response",
      "",
      "    response=$(env COMP_WORDS=\"$\x7bCOMP_WORDS[*]\x7d\" COMP_CWORD=$COMP_CWORD _CLI_COMPLETE=bash_complete $1)",
      "",
      "    for completion in $response; do",
      "        IFS=',' read type value <<< \"$completion\"",
      "",
      "        if [[ $type == 'dir' ]]; then",
      "            COMPREPLY=()",
      "            compopt -o dirnames",
      "        elif [[ $type == 'file' ]]; then",
      "            COMPREPLY=()",
      "            compopt -o default",
      "        elif [[ $type == 'plain' ]]; then",
      "            COMPREPLY+=($value)",
      "        fi",
      "    done",
      "",
      "    return 0",
      "\x7d",
      "",
      "_cli_completion_setup() \x7b",
      "    complete -o nosort -F _cli_completion cli",
      "\x7d",
      "",
      "_cli_completion_setup;"]
  | zsh =>
    [ "#compdef cli",
      "",
      "_cli_completion() \x7b",
      "    local -a completions",
      "    local -a completions_with_descriptions",
      "    local -a response",
      "    (( ! $+commands[cli] )) && return 1",
      "",
      "    response=(\"$\x7b(@f)$(env COMP_WORDS=\"$\x7bwords[*]\x7d\" COMP_CWORD=$((CURRENT-1)) _CLI_COMPLETE=zsh_complete cli)\x7d\")",
      "",
      "    for type key descr in $\x7bresponse\x7d; do",
      "        if [[ \"$type\" == \"plain\" ]]; then",
      "            if [[ \"$descr\" == \"_\" ]]; then",
      "                completions+=(\"$key\")",
      "            else",
      "                completions_with_descriptions+=(\"$key\":\"$descr\")",
      "            fi",
      "        elif [[ \"$type\" == \"dir\" ]]; then",
      "            _path_files -/",
      "        elif [[ \"$type\" == \"file\" ]]; then",
      "            _path_files -f",
      "        fi",
      "    done",
      "",
      "    if [ -n \"$completions_with_descriptions\" ]; then",
      "        _describe -V unsorted completions_with_descriptions -U",
      "    fi",
      "",
      "    if [ -n \"$completions\" ]; then",
      "        compadd -U -V unsorted -a completions",
      "    fi",
      "\x7d",
      "",
      "if [[ $zsh_eval_context[-1] == loadautofunc ]]; then",
      "    # autoload from fpath, call function directly",
      "    _cli_completion \"$@\"",
      "else",
      "    # eval/source/. command, register function for later",
      "    compdef _cli_completion cli",
      "fi"]
  | fish =>
    [ "function _cli_completion;",
      "    set -l response (env _CLI_COMPLETE=fish_complete COMP_WORDS=(commandline -cp) COMP_CWORD=(commandline -t) cli);",
      "",
      "    for completion in $response;",
      "        set -l metadata (string split \",\" $completion);",
      "",
      "        if test $metadata[1] = \"dir\";",
      "            __fish_complete_directories $metadata[2];",
      "        else if test $metadata[1] = \"file\";",
      "            __fish_complete_path $metadata[2];",
      "        else if test $metadata[1] = \"plain\";",
      "            echo $metadata[2];",
      "        end;",
      "    end;",
      "end;",
      "",
      "complete --no-files --command cli --arguments \"(_cli_completion)\";"]

def script (shell : Shell) : Text :=
  shell.scriptRows.flatMap fun row => row.toList ++ ['\n']

end Shell

end SchemeCheck.CommandLine
