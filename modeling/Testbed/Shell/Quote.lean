/-!
# Words quoted for a shell

An argument is printed so that a shell reads it back as one word. A nonempty word of harmless
characters stands as it is. Any other is put in single quotes, and a single quote inside it is
written by leaving the quotes, escaping it, and entering them again.

Results: `isPlain_iff` (which words stand as they are), `quote_of_plain` (how they are written).
-/

namespace Testbed.Shell

/-- Whether a character means only itself to a shell, wherever it stands in a word. -/
def isPlainChar (c : Char) : Bool :=
  c.isAlphanum || "-_./:=@%+,".toList.contains c

def isPlain (word : List Char) : Bool :=
  !word.isEmpty && word.all isPlainChar

/-- The inside of single quotes, with every single quote written as `'\''`. -/
def escapeQuotes (word : List Char) : List Char :=
  word.flatMap fun c => if c = '\'' then ['\'', '\\', '\'', '\''] else [c]

/-- A word as it is written for a shell, as characters. -/
def quoteChars (word : List Char) : List Char :=
  if isPlain word then word else '\'' :: escapeQuotes word ++ ['\'']

def quote (word : String) : String :=
  String.ofList (quoteChars word.toList)

def quoteAll (words : List String) : String :=
  " ".intercalate (words.map quote)

theorem isPlain_iff {word : List Char} :
    isPlain word = true ↔ word ≠ [] ∧ ∀ c ∈ word, isPlainChar c = true := by
  simp [isPlain]

theorem quote_of_plain {word : String} (plain : isPlain word.toList = true) :
    quote word = word := by
  simp [quote, quoteChars, plain]

end Testbed.Shell
