import Testbed.Proofs.Blocks

/-!
# Saved configurations with other line ends

All line feeds of a saved configuration get a carriage return in front of them. The lines stay the
same: one carriage return belongs to the line end where a line feed follows it, so the new ones are
dropped again. What matters is that none stood there before, since of two only one is dropped. A
carriage return at the end of the text belongs to the last line in both forms, and whether this line
opens a section or closes one is decided alike. So nothing of what is found in the text changes.

Results:
1. `splitLines_returned`, `lines_withReturns`: the lines of the text in its other form.
2. `sections_withReturns`: what is found in it, what is replayed and what is reported.
-/

namespace Testbed.Text

/-! ## Lines -/

def returned (text : List Char) : List Char :=
  text.flatMap fun c => if c = '\n' then ['\r', '\n'] else [c]

/-- A text with a carriage return in front of every line feed. -/
def withReturns (text : String) : String := String.ofList (returned text.toList)

theorem returned_line_feed (rest : List Char) :
    returned ('\n' :: rest) = '\r' :: '\n' :: returned rest := rfl

theorem returned_cons {c : Char} (noLineFeed : c ≠ '\n') (rest : List Char) :
    returned (c :: rest) = c :: returned rest := by
  rw [returned, List.flatMap_cons, if_neg noLineFeed]
  rfl

/-- No line feed is left without a carriage return, so none stands in front of all. -/
theorem head?_returned (text : List Char) : (returned text).head? ≠ some '\n' := by
  cases text with
  | nil => exact nofun
  | cons c rest =>
    by_cases isLineFeed : c = '\n'
    · rw [isLineFeed, returned_line_feed]
      simp
    · rw [returned_cons isLineFeed]
      simpa using isLineFeed

theorem splitLines_returned {text : List Char} (plain : ¬ ['\r', '\n'] <:+: text) :
    splitLines (returned text) = splitLines text := by
  have behind {c rest} (plain : ¬ ['\r', '\n'] <:+: c :: rest) : ¬ ['\r', '\n'] <:+: rest :=
    fun inRest => plain (List.infix_cons inRest)
  fun_induction splitLines text with
  | case1 => rfl
  | case2 rest ih =>
    rw [returned_line_feed, splitLines_return_line_feed, ih (behind plain)]
  | case3 rest ih => exact absurd ⟨[], rest, rfl⟩ plain
  | case4 c rest noLineFeed _ isLast ih =>
    rw [returned_cons noLineFeed, splitLines_cons noLineFeed fun _ => head?_returned rest,
      ih (behind plain), isLast]
  | case5 c rest noLineFeed _ first later cut ih =>
    rw [returned_cons noLineFeed, splitLines_cons noLineFeed fun _ => head?_returned rest,
      ih (behind plain), cut]

theorem lines_withReturns {text : String} (plain : ¬ "\r\n".toList <:+: text.toList) :
    lines (withReturns text) = lines text := by
  rw [lines, withReturns, String.toList_ofList, splitLines_returned plain]
  rfl

end Testbed.Text

namespace Testbed.Saved

open Testbed.Text Testbed.Vtysh

/-! ## Sections -/

/-- If no carriage return stands in front of a line feed, all line feeds may get one: the iterator
returns the same sections, and the same directives are replayed with the same reports. This is so
whether the last line is ended or not, and whatever it holds. -/
theorem sections_withReturns (kinds : List Kind) {text : String}
    (plain : ¬ "\r\n".toList <:+: text.toList) :
    (∀ requests, answers kinds (Text.lines (withReturns text)) requests 0 =
      answers kinds (Text.lines text) requests 0) ∧
    sections kinds (withReturns text) = sections kinds text ∧
    directives kinds (withReturns text) = directives kinds text ∧
    ∀ node, report node kinds (withReturns text) = report node kinds text := by
  have sameLines := lines_withReturns plain
  have sameSections : sections kinds (withReturns text) = sections kinds text :=
    congrArg (sectionsOf kinds) sameLines
  refine ⟨fun requests => ?_, sameSections, ?_, fun node => ?_⟩
  · rw [sameLines]
  · exact congrArg (List.flatMap Section.directives) sameSections
  · exact congrArg (List.flatMap (Section.report node)) sameSections

/-- Three texts whose last line is not ended and keeps its carriage return: it closes a section, it
opens one, and it goes on with one. -/
theorem sections_withReturns_sampleEndings :
    let front := "router ospf\n network 4.0.0.0/8 area 0\n"
    withReturns (front ++ " !\r") = "router ospf\r\n network 4.0.0.0/8 area 0\r\n !\r" ∧
    directives [.ospf] (withReturns (front ++ " !\r")) =
      [.line "router ospf", .line " network 4.0.0.0/8 area 0", .exit] ∧
    directives [.interface] (withReturns (front ++ "interface seat\r")) =
      [.line "interface seat\r"] ∧
    directives [.ospf] (withReturns (front ++ " passive-interface seat\r")) =
      [.line "router ospf", .line " network 4.0.0.0/8 area 0",
        .line " passive-interface seat\r"] := by
  intro front
  have closing : ¬ "\r\n".toList <:+: (front ++ " !\r").toList := by decide +kernel
  have opening : ¬ "\r\n".toList <:+: (front ++ "interface seat\r").toList := by decide +kernel
  have inside : ¬ "\r\n".toList <:+: (front ++ " passive-interface seat\r").toList := by
    decide +kernel
  refine ⟨by decide +kernel, ?_, ?_, ?_⟩
  · rw [(sections_withReturns [.ospf] closing).2.2.1]
    decide +kernel
  · rw [(sections_withReturns [.interface] opening).2.2.1]
    decide +kernel
  · rw [(sections_withReturns [.ospf] inside).2.2.1]
    decide +kernel

/-- Of two carriage returns in front of a line feed one belongs to the line. -/
example :
    directives [.bgp] "router bgp 11537\r\n!\n" = [.line "router bgp 11537", .exit] ∧
      directives [.bgp] (withReturns "router bgp 11537\r\n!\n") =
        [.line "router bgp 11537\r", .exit] := by
  decide +kernel

end Testbed.Saved
