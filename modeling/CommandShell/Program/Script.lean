/-
This file writes the scripts by which shells complete the lines of the program.
-/

import CommandShell.Failure
import CommandShell.Text.Lowercase

namespace CommandShell.Program

open Text

def bashLines : List String := [
  "# Complete command lines after `cmdtree exec` from the command tree",
  "_cmdtree_exec_line() \x7b",
  "    local line=\"$\x7bCOMP_LINE#*exec \x7d\"",
  "    cmdtree complete -- \"$line\" 2>/dev/null",
  "\x7d",
  "",
  "_cmdtree_enhanced() \x7b",
  "    local cur prev words cword",
  "    _init_completion || return",
  "",
  "    local i",
  "    for (( i = 1; i < cword; i++ )); do",
  "        if [[ \"$\x7bwords[i]\x7d\" == \"exec\" ]]; then",
  "            local IFS=$'\\n'",
  "            COMPREPLY=($(_cmdtree_exec_line))",
  "            return 0",
  "        fi",
  "    done",
  "",
  "    # Fall back to default completion",
  "    _cmdtree \"$@\"",
  "\x7d",
  "",
  "complete -F _cmdtree_enhanced cmdtree"]

def zshLines : List String := [
  "# Complete command lines after `cmdtree exec` from the command tree",
  "_cmdtree_exec_line() \x7b",
  "    local -a suggestions",
  "    local line=\"$\x7bBUFFER#*exec \x7d\"",
  "    suggestions=(\"$\x7b(@f)$(cmdtree complete -- \"$line\" 2>/dev/null)\x7d\")",
  "    compadd -a suggestions",
  "\x7d",
  "",
  "_cmdtree_enhanced() \x7b",
  "    if (( $\x7bwords[(I)exec]\x7d )); then",
  "        _cmdtree_exec_line",
  "        return 0",
  "    fi",
  "    _cmdtree \"$@\"",
  "\x7d",
  "",
  "compdef _cmdtree_enhanced cmdtree"]

def fishLines : List String := [
  "# Complete command lines after `cmdtree exec` from the command tree",
  "function __cmdtree_exec_line",
  "    set -l line (string replace -r '^.*?exec ' '' -- (commandline -cp))",
  "    cmdtree complete -- \"$line\" 2>/dev/null",
  "end",
  "",
  "complete -c cmdtree -n \"__fish_seen_subcommand_from exec\" -f -a \"(__cmdtree_exec_line)\""]

/-- Shells are named in any case. -/
def scriptLines? (shell : String) : Option (List String) :=
  match String.ofList (lowercase shell.toList) with
  | "bash" => some bashLines
  | "zsh" => some zshLines
  | "fish" => some fishLines
  | _ => none

/-- An empty line stands before the script. -/
def script (shell : String) : Except SettingsError String :=
  match scriptLines? shell with
  | some lines => .ok ("\n" ++ String.join (lines.map (· ++ "\n")))
  | none => .error (.invalidValue "shell" shell)

end CommandShell.Program
