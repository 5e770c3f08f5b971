import JavaSource.Text.Basic

/-!
# Shell completion

Scripts that let a shell complete the subcommands of the program.
-/

namespace JavaSource.Command

/-- The shells with a completion script. -/
inductive Shell where
  | bash
  | elvish
  | fish
  | powershell
  | zsh
deriving DecidableEq

namespace Shell

/-- All shells. -/
def all : List Shell := [.bash, .elvish, .fish, .powershell, .zsh]

/-- The name of a shell. -/
def name : Shell → Text
  | .bash => "bash"
  | .elvish => "elvish"
  | .fish => "fish"
  | .powershell => "powershell"
  | .zsh => "zsh"

/-- The shell with a name. -/
def ofName? (t : Text) : Option Shell := all.find? (·.name == t)

/-- The completion script for a shell. -/
def script (program : Text) (subcommands : List Text) (s : Shell) : Text :=
  let words := Text.join " " subcommands
  match s with
  | .bash => "complete -W '" ++ words ++ "' " ++ program ++ "\n"
  | .elvish =>
    "set edit:completion:arg-completer[" ++ program ++ "] = \x7b|@words| put " ++ words ++ " \x7d\n"
  | .fish => "complete -c " ++ program ++ " -n __fish_use_subcommand -f -a '" ++ words ++ "'\n"
  | .powershell =>
    "Register-ArgumentCompleter -Native -CommandName '" ++ program ++ "' -ScriptBlock \x7b '" ++
      Text.join "','" subcommands ++ "' \x7d\n"
  | .zsh => "#compdef " ++ program ++ "\ncompadd " ++ words ++ "\n"

end Shell

end JavaSource.Command
