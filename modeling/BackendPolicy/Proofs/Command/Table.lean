import BackendPolicy.Proofs.Command.Listing

/-!
This module contains the two written forms of issues. The main statement is `tableReport_displays`: a table shows
every issue as it is displayed, and colours only wrap parts of it.
-/

namespace BackendPolicy

theorem Issue.IsWorst.unique {issues : List Issue} {s t : Severity} (hs : IsWorst issues s) (ht : IsWorst issues t)
    : s = t := by
  rw [← worst?_eq_some_iff] at hs ht
  rw [hs] at ht
  exact Option.some.inj ht

namespace Command

structure Piece where
  ink : Option Ink
  text : String

namespace Piece

/--
The text of a piece. Where it is painted, a control sequence goes before it and one that resets it behind it.
-/
def painted (p : Piece) : String :=
  match p.ink with
  | none => p.text
  | some ink => "\x1b[" ++ ink.parameters ++ "m" ++ p.text ++ "\x1b[0m"

def write (coloured : Bool) (pieces : List Piece) : String :=
  String.join (pieces.map fun p => if coloured then p.painted else p.text)

end Piece

def issuePieces (i : Issue) : List Piece := [
  ⟨none, i.location ++ ": "⟩,
  ⟨some (.severity i.severity), i.severity.display⟩,
  ⟨none, ": " ++ i.message ++ " "⟩,
  ⟨some .dim, "(" ++ i.rule ++ ")"⟩]

def summaryPiece (worst : Severity) (count : Nat) : Piece :=
  ⟨some (.severity worst), "⚠️  " ++ toString count ++ " issue(s) found"⟩

theorem issueLine_eq_write (coloured : Bool) (i : Issue) : issueLine coloured i = Piece.write coloured (issuePieces i) := by
  rw [← String.toList_inj]
  cases coloured with
  | false => simp [issueLine, issuePieces, Piece.write, paint, toString]
  | true => simp [issueLine, issuePieces, Piece.write, Piece.painted, paint, toString]

theorem write_issuePieces (i : Issue) : Piece.write false (issuePieces i) = i.display := by
  rw [← String.toList_inj]
  simp [Issue.display, issuePieces, Piece.write, toString]

theorem tableReport_eq_write {issues : List Issue} {worst : Severity} (hworst : Issue.IsWorst issues worst)
    (coloured : Bool)
    : tableReport coloured issues
        =
      String.join (issues.map fun i => Piece.write coloured (issuePieces i) ++ "\n")
        ++ "\n" ++ Piece.write coloured [summaryPiece worst issues.length] ++ "\n" := by
  have hlines : (issues.map (issueLine coloured)).map (· ++ "\n")
      = issues.map fun i => Piece.write coloured (issuePieces i) ++ "\n" := by
    rw [List.map_map]
    exact List.map_congr_left fun i _ => congrArg (· ++ "\n") (issueLine_eq_write coloured i)
  rw [tableReport_of_isWorst hworst]
  rw [hlines]
  cases coloured with
  | false => simp [Piece.write, summaryPiece, paint]
  | true => simp [Piece.write, Piece.painted, summaryPiece, paint]

/--
A table shows every issue on a line of its own, as it is displayed, and closes with an empty line and the number of
issues. Colours wrap pieces of the same text: in the line of an issue its severity and its rule, and all of the last
line, which has the colour of the worst issue.
-/
theorem tableReport_displays {issues : List Issue} (h : issues ≠ [])
    : ∃ worst,
        Issue.IsWorst issues worst
          ∧ checkReport false false .table issues
              = String.join (issues.map fun i => i.display ++ "\n")
                  ++ "\n" ++ ("⚠️  " ++ toString issues.length ++ " issue(s) found") ++ "\n"
          ∧ (∀ i, Piece.write false (issuePieces i) = i.display)
          ∧ ∀ coloured,
              checkReport coloured false .table issues
                = String.join (issues.map fun i => Piece.write coloured (issuePieces i) ++ "\n")
                    ++ "\n" ++ Piece.write coloured [summaryPiece worst issues.length] ++ "\n" := by
  obtain ⟨worst, hworst⟩ := Option.ne_none_iff_exists'.1 (mt Issue.worst?_eq_none_iff.1 h)
  rw [Issue.worst?_eq_some_iff] at hworst
  have htable (coloured : Bool) := tableReport_eq_write hworst coloured
  refine ⟨worst, hworst, ?_, write_issuePieces, htable⟩
  have hplain : checkReport false false .table issues = _ := htable false
  simp only [write_issuePieces] at hplain
  rw [hplain]
  simp [Piece.write, summaryPiece]

def mixedIssues : List Issue := [
  ⟨"style", .notice, "no (lock)", "a.tf", ⟨1, 1, 0⟩, ⟨1, 4, 3⟩⟩,
  ⟨"types", .error, "bad: type", "sub/b.tf", ⟨20, 3, 140⟩, ⟨20, 9, 146⟩⟩]

theorem tableReport_displays_mixed
    : mixedIssues ≠ []
        ∧ checkReport false false .table mixedIssues
            = "a.tf:1:1: notice: no (lock) (style)\nsub/b.tf:20:3: error: bad: type (types)\n\n"
                ++ "⚠️  2 issue(s) found\n"
        ∧ checkReport true false .table mixedIssues
            = "a.tf:1:1: \x1b[34mnotice\x1b[0m: no (lock) \x1b[2m(style)\x1b[0m\n"
                ++ "sub/b.tf:20:3: \x1b[31;1merror\x1b[0m: bad: type \x1b[2m(types)\x1b[0m\n\n"
                ++ "\x1b[31;1m⚠️  2 issue(s) found\x1b[0m\n" := by
  have hissues : mixedIssues ≠ [] := by decide
  have herror : Issue.IsWorst mixedIssues .error := Issue.worst?_eq_some_iff.1 (by decide)
  obtain ⟨worst, hworst, hplain, _, htable⟩ := tableReport_displays hissues
  obtain rfl := hworst.unique herror
  refine ⟨hissues, hplain.trans ?_, (htable true).trans ?_⟩
  . rfl
  . rfl

end Command

end BackendPolicy
