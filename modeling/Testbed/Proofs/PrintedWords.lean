import Testbed.Proofs.DryRunLine

/-!
# The words of a printed command

The line of a dry run ends with the command that enters the namespaces of a process. A shell cuts it
into words at the blanks outside of quotes, replaces the variable by the process number and takes
the quotes away. What it gets are the words that the live lab runs: those that enter the namespaces
and then the arguments, whatever characters these hold and however many there are. So the arguments
can be read off the line, and different arguments are never printed alike.

Results:
1. `words?_of_variable`, `words?_of_number`: the words of a printed command, with the number as the
   value of the variable and with the number in its place.
2. `arguments_of_commandText`: the printed command determines the arguments.
3. `words_of_pipeline`: the above for the line of a dry run.
-/

namespace Testbed.Shell

/-- The words of a single command: it is cut at the blanks outside of quotes, and then variables are
replaced and quotes taken away. -/
def words? (environment : Environment) (text : String) : Option (List String) := do
  match partsOf (← read text.toList) with
  | [[words]] => expandAll environment words
  | _ => none

theorem words?_of_isStage {text : String} {words : List Word} (isStage : IsStage text.toList words)
    (environment : Environment) : words? environment text = expandAll environment words := by
  obtain ⟨symbols, isRead, isParts⟩ := Option.map_eq_some_iff.mp isStage.isPart.read
  simp only [words?, isRead, isParts, bind, Option.bind_some]

theorem isPlain_toString (n : Nat) : isPlain (toString n).toList = true := by
  refine isPlain_iff.mpr ⟨Text.toList_toString_ne_nil n, fun c inDigits => ?_⟩
  have digit := Text.isDigit_of_mem_toString inDigits
  simp [isPlainChar, Char.isAlphanum, digit]

theorem fields_toString (n : Nat) : fields (toString n).toList = [(toString n).toList] := by
  refine fields_of_word (Text.toList_toString_ne_nil n) fun c inDigits => ?_
  rw [Bool.eq_false_iff]
  intro gap
  have digit := Text.isDigit_of_mem_toString inDigits
  rcases isGap_iff.mp gap with rfl | rfl | rfl <;> cases digit

end Testbed.Shell

namespace Testbed.Lab

open Testbed.Shell

/-- The variable has the process number as its value. An argument that holds the name of the
variable is quoted, so it stays as it is. -/
theorem words?_of_variable {settings : Settings} (plain : isPlain settings.execTool.toList = true)
    (name : String) (pid : Nat) (command : List String) :
    words? [("pid", (toString pid).toList)] (commandText settings "$pid" command) =
      some ((Namespace.ofProcess settings name pid).entry ++ command) := by
  rw [words?_of_isStage (isStage_commandText plain isStage_variable command),
    ← Settings.commandWords, expandAll_commandWords, fields_toString, List.map_singleton,
    String.ofList_toList, entry_eq_entryWith]

/-- With the process number in the place of the variable nothing is left to replace. -/
theorem words?_of_number {settings : Settings} (plain : isPlain settings.execTool.toList = true)
    (name : String) (pid : Nat) (command : List String) :
    words? [] (commandText settings (toString pid) command) =
      some ((Namespace.ofProcess settings name pid).entry ++ command) := by
  have number : IsStage (toString pid).toList [.literal (toString pid)] :=
    isStage_plain (isPlain_toString pid)
  rw [words?_of_isStage (isStage_commandText plain number command), entry_eq_entryWith,
    ← expandAll_literal [] (settings.entryWith [toString pid] ++ command)]
  simp [Settings.entryWith]

/-- The words that enter namespaces tell where the arguments begin. A lab that enters them as the
superuser and one that does not are never mistaken for each other, since `-a` is no number. -/
theorem arguments_of_entryWith {settings other : Settings} {left right : List String}
    (same : settings.entryWith ["0"] ++ left = other.entryWith ["0"] ++ right) : left = right := by
  unfold Settings.entryWith at same
  cases isSuper : settings.superuser with
  | false =>
    cases otherSuper : other.superuser with
    | false =>
      obtain ⟨-, isSame⟩ : settings.entryProgram = other.entryProgram ∧ left = right := by
        simpa [isSuper, otherSuper] using same
      exact isSame
    | true => simp [isSuper, otherSuper] at same
  | true =>
    cases otherSuper : other.superuser with
    | false => simp [isSuper, otherSuper] at same
    | true =>
      obtain ⟨-, -, isSame⟩ : settings.entryProgram = other.entryProgram ∧
          settings.execTool = other.execTool ∧ left = right := by
        simpa [isSuper, otherSuper] using same
      exact isSame

/-- The printed command determines its arguments, even if it is not known for which lab it was
printed. -/
theorem arguments_of_commandText {settings other : Settings}
    (plain : isPlain settings.execTool.toList = true)
    (otherPlain : isPlain other.execTool.toList = true) {left right : List String}
    (same : commandText settings "$pid" left = commandText other "$pid" right) : left = right := by
  have words := words?_of_variable plain "" 0 left
  rw [same, words?_of_variable otherPlain "" 0 right, Option.some.injEq, entry_eq_entryWith,
    entry_eq_entryWith] at words
  exact (arguments_of_entryWith words).symm

/-- What the line of a dry run has behind the lookup is read as the words that the live lab runs in
the namespaces of the process, whatever the arguments are. So different arguments are never printed
as the same command. -/
theorem words_of_pipeline {settings : Settings} (plain : isPlain settings.execTool.toList = true)
    (filter : Filter) (name : String) (pid : Nat) (command : List String) :
    let words := (Namespace.ofProcess settings name pid).entry ++ command
    pipeline settings filter command =
      filter.shellText ++ " && " ++ commandText settings "$pid" command ∧
    words? [("pid", (toString pid).toList)] (commandText settings "$pid" command) = some words ∧
    words? [] (commandText settings (toString pid) command) = some words ∧
    (∀ others, pipeline settings filter others = pipeline settings filter command →
      others = command) ∧
    ∀ other : Settings, isPlain other.execTool.toList = true → ∀ others,
      commandText other "$pid" others = commandText settings "$pid" command →
        others = command := by
  intro words
  refine ⟨pipeline_eq_commandText settings filter command,
    words?_of_variable plain name pid command, words?_of_number plain name pid command, ?_, ?_⟩
  · intro others same
    rw [pipeline_eq_commandText, pipeline_eq_commandText, String.append_right_inj] at same
    exact arguments_of_commandText plain plain same
  · intro other otherPlain others same
    exact arguments_of_commandText otherPlain plain same

/-- Arguments with a quote, a line feed, the name of the variable and no character at all. -/
def sampleArguments : List String := ["it's", "", "a\nb", "$pid"]

/-- They are read back as they are, behind the entry of the namespaces of process 4242. -/
theorem words_of_pipeline_sampleArguments :
    isPlain ({} : Settings).execTool.toList = true ∧
    words? [("pid", "4242".toList)] (commandText {} "$pid" sampleArguments) =
      some (["sudo", "mxexec", "-a", "4242", "-b", "4242", "-k", "4242"] ++ sampleArguments) := by
  have plain : isPlain ({} : Settings).execTool.toList = true := by decide
  exact ⟨plain, (words_of_pipeline plain seattle "mininet:SEAT" 4242 sampleArguments).2.1⟩

end Testbed.Lab
