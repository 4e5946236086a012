import BackendPolicy.Command.Run
import BackendPolicy.Proofs.Data.Json

/-!
This module contains the layout of the reports on issues. The main statement is `checkReport_lists`: what is
reported lists all issues in order, as a table or as a document.
-/

namespace BackendPolicy

namespace Severity

theorem le_iff {s t : Severity} : s ≤ t ↔ s.rank ≤ t.rank := Iff.rfl

theorem eq_of_rank_eq {s t : Severity} (h : s.rank = t.rank) : s = t := by
  revert h
  cases s <;> cases t <;> decide

instance : Std.IsLinearOrder Severity where
  le_refl s := Nat.le_refl s.rank
  le_trans _ _ _ := Nat.le_trans
  le_antisymm _ _ hst hts := eq_of_rank_eq (Nat.le_antisymm hst hts)
  le_total s t := Nat.le_total s.rank t.rank

instance : Std.LawfulOrderMin Severity where
  min_eq_or s t := by
    change (if s ≤ t then s else t) = s ∨ (if s ≤ t then s else t) = t
    split <;> simp
  le_min_iff r s t := by
    change r ≤ (if s ≤ t then s else t) ↔ r ≤ s ∧ r ≤ t
    simp only [le_iff]
    split <;> omega

end Severity

namespace Issue

structure IsWorst (issues : List Issue) (s : Severity) : Prop where
  occurs : ∃ i ∈ issues, i.severity = s
  least : ∀ i ∈ issues, s ≤ i.severity

theorem worst?_eq_some_iff {issues : List Issue} {s : Severity} : worst? issues = some s ↔ IsWorst issues s := by
  unfold worst?
  rw [List.min?_eq_some_iff]
  rw [List.mem_map]
  rw [List.forall_mem_map]
  constructor
  . rintro ⟨hoccurs, hleast⟩
    exact ⟨hoccurs, hleast⟩
  . rintro ⟨hoccurs, hleast⟩
    exact ⟨hoccurs, hleast⟩

theorem worst?_eq_none_iff {issues : List Issue} : worst? issues = none ↔ issues = [] := by
  unfold worst?
  rw [List.min?_eq_none_iff]
  rw [List.map_eq_nil_iff]

end Issue

namespace Command

def severityName : Severity → String
  | .error => "error"
  | .warning => "warning"
  | .notice => "notice"

/--
Whether a text is shown, as it is or between control sequences.
-/
inductive Paints : Bool → String → String → Prop where
  | plain (text : String) : Paints false text text
  | painted (parameters text : String) : Paints true text ("\x1b[" ++ parameters ++ "m" ++ text ++ "\x1b[0m")

/--
The line of an issue in a table: where it is, how bad it is, what is wrong and which rule says so.
-/
inductive IsLine (coloured : Bool) (i : Issue) : String → Prop where
  | intro {severity rule : String} (hseverity : Paints coloured (severityName i.severity) severity)
      (hrule : Paints coloured ("(" ++ i.rule ++ ")") rule)
      : IsLine coloured i
          (i.range.filename ++ ":" ++ toString i.range.start.line ++ ":" ++ toString i.range.start.column ++ ": "
            ++ severity ++ ": " ++ i.message ++ " " ++ rule)

def pointText (p : Pos) : String :=
  "\x7b\n          \"line\": " ++ toString p.line
    ++ ",\n          \"column\": " ++ toString p.column
    ++ ",\n          \"byte\": " ++ toString p.byte
    ++ "\n        \x7d"

inductive IsObject (i : Issue) : String → Prop where
  | intro {rule message filename : String} (hrule : Json.Quotes i.rule rule)
      (hmessage : Json.Quotes i.message message) (hfilename : Json.Quotes i.range.filename filename)
      : IsObject i
          ("\x7b\n      \"rule\": " ++ rule
            ++ ",\n      \"severity\": \"" ++ severityName i.severity ++ "\""
            ++ ",\n      \"message\": " ++ message
            ++ ",\n      \"range\": \x7b\n        \"filename\": " ++ filename
            ++ ",\n        \"start\": " ++ pointText i.range.start
            ++ ",\n        \"end\": " ++ pointText i.range.stop
            ++ "\n      \x7d\n    \x7d")

/--
Whether a text lists issues in order. A table has a line for each of them and one to close it. A document has an
object for each of them in an array.
-/
inductive Lists (coloured : Bool) : Format → List Issue → String → Prop where
  | emptyTable {closing : String} (hclosing : Paints coloured "✅ No issues found." closing)
      : Lists coloured .table [] (closing ++ "\n")
  | table {issues : List Issue} {lines : List String} {closing : String} (hissues : issues ≠ [])
      (hlines : List.Forall₂ (IsLine coloured) issues lines)
      (hclosing : Paints coloured ("⚠️  " ++ toString issues.length ++ " issue(s) found") closing)
      : Lists coloured .table issues (String.join (lines.map (· ++ "\n")) ++ "\n" ++ closing ++ "\n")
  | emptyDocument : Lists coloured .json [] "\x7b\n  \"issues\": []\n\x7d\n"
  | document {issues : List Issue} {objects : List String} (hissues : issues ≠ [])
      (hobjects : List.Forall₂ IsObject issues objects)
      : Lists coloured .json issues
          ("\x7b\n  \"issues\": [\n    " ++ ",\n    ".intercalate objects ++ "\n  ]\n\x7d\n")

theorem display_eq_severityName (s : Severity) : s.display = severityName s := by
  cases s <;> rfl

theorem paint_paints (coloured : Bool) (ink : Ink) (text : String) : Paints coloured text (paint coloured ink text) := by
  cases coloured with
  | false => exact .plain text
  | true => exact .painted ink.parameters text

theorem issueLine_isLine (coloured : Bool) (i : Issue) : IsLine coloured i (issueLine coloured i) := by
  have hline : issueLine coloured i
      = i.range.filename ++ ":" ++ toString i.range.start.line ++ ":" ++ toString i.range.start.column ++ ": "
          ++ paint coloured (.severity i.severity) (severityName i.severity) ++ ": " ++ i.message ++ " "
          ++ paint coloured .dim ("(" ++ i.rule ++ ")") := by
    rw [← display_eq_severityName]
    rw [← String.toList_inj]
    simp [issueLine, Issue.location, toString]
  rw [hline]
  exact .intro (paint_paints _ _ _) (paint_paints _ _ _)

theorem textAt_pos (p : Pos) : p.toJson.textAt 4 = pointText p := by
  have hline : Json.quoted "line" = "\"line\"" := rfl
  have hcolumn : Json.quoted "column" = "\"column\"" := rfl
  have hbyte : Json.quoted "byte" = "\"byte\"" := rfl
  have houter : Value.indentation 4 = "        " := rfl
  have hinner : Value.indentation (4 + 1) = "          " := rfl
  have hnumber (n : Nat) : toString (n : Int) = toString n := rfl
  unfold Pos.toJson pointText
  simp only [Json.textAt, Json.fieldsAt, hnumber]
  rw [hline]
  rw [hcolumn]
  rw [hbyte]
  rw [houter]
  rw [hinner]
  rw [← String.toList_inj]
  simp

theorem textAt_range (r : Range)
    : r.toJson.textAt 3
        =
      "\x7b\n        \"filename\": " ++ Json.quoted r.filename
        ++ ",\n        \"start\": " ++ pointText r.start
        ++ ",\n        \"end\": " ++ pointText r.stop
        ++ "\n      \x7d" := by
  have hfilename : Json.quoted "filename" = "\"filename\"" := rfl
  have hstart : Json.quoted "start" = "\"start\"" := rfl
  have hend : Json.quoted "end" = "\"end\"" := rfl
  have houter : Value.indentation 3 = "      " := rfl
  have hinner : Value.indentation (3 + 1) = "        " := rfl
  unfold Range.toJson
  simp only [Json.textAt, Json.fieldsAt]
  rw [hfilename]
  rw [hstart]
  rw [hend]
  rw [houter]
  rw [hinner]
  rw [← String.toList_inj]
  simp [textAt_pos]

theorem textAt_issue_isObject (i : Issue) : IsObject i (i.toJson.textAt 2) := by
  have hrule : Json.quoted "rule" = "\"rule\"" := rfl
  have hseverity : Json.quoted "severity" = "\"severity\"" := rfl
  have hmessage : Json.quoted "message" = "\"message\"" := rfl
  have hrange : Json.quoted "range" = "\"range\"" := rfl
  have hname : Json.quoted i.severity.display = "\"" ++ severityName i.severity ++ "\"" := by
    cases i.severity <;> rfl
  have houter : Value.indentation 2 = "    " := rfl
  have hinner : Value.indentation (2 + 1) = "      " := rfl
  convert IsObject.intro (Json.quoted_quotes i.rule) (Json.quoted_quotes i.message)
    (Json.quoted_quotes i.range.filename) using 1
  unfold Issue.toJson
  simp only [Json.textAt, Json.fieldsAt]
  rw [hrule]
  rw [hseverity]
  rw [hmessage]
  rw [hrange]
  rw [hname]
  rw [houter]
  rw [hinner]
  rw [← String.toList_inj]
  simp [textAt_range]

theorem writeLines_append (lines more : List String)
    : writeLines (lines ++ more) = writeLines lines ++ writeLines more := by
  unfold writeLines
  rw [List.map_append]
  rw [String.join_append]

theorem writeLines_singleton (line : String) : writeLines [line] = line ++ "\n" := by
  simp [writeLines]

theorem tableReport_nil (coloured : Bool)
    : tableReport coloured [] = paint coloured .success "✅ No issues found." ++ "\n" :=
  writeLines_singleton _

theorem tableReport_of_isWorst {issues : List Issue} {worst : Severity} (h : Issue.IsWorst issues worst)
    (coloured : Bool)
    : tableReport coloured issues
        =
      String.join ((issues.map (issueLine coloured)).map (· ++ "\n")) ++ "\n"
        ++ paint coloured (.severity worst) ("⚠️  " ++ toString issues.length ++ " issue(s) found") ++ "\n" := by
  have hclosing (closing : String) : writeLines ["", closing] = "\n" ++ (closing ++ "\n") := by
    simp [writeLines]
  unfold tableReport summaryLines
  rw [Issue.worst?_eq_some_iff.2 h]
  rw [writeLines_append]
  dsimp only
  rw [hclosing]
  rw [← String.append_assoc]
  rw [← String.append_assoc]
  rfl

theorem tableReport_lists (coloured : Bool) (issues : List Issue)
    : Lists coloured .table issues (tableReport coloured issues) := by
  cases hworst : Issue.worst? issues with
  | none =>
    obtain rfl := Issue.worst?_eq_none_iff.1 hworst
    rw [tableReport_nil]
    exact .emptyTable (paint_paints _ _ _)
  | some worst =>
    rw [Issue.worst?_eq_some_iff] at hworst
    have hissues : issues ≠ [] := by
      obtain ⟨i, hi, _⟩ := hworst.occurs
      exact List.ne_nil_of_mem hi
    rw [tableReport_of_isWorst hworst]
    apply Lists.table hissues _ (paint_paints _ _ _)
    rw [List.forall₂_map_right_iff]
    exact List.forall₂_same.2 fun i _ => issueLine_isLine coloured i

theorem jsonReport_lists (coloured : Bool) (issues : List Issue)
    : Lists coloured .json issues (jsonReport issues) := by
  cases issues with
  | nil => exact .emptyDocument
  | cons i issues =>
    let objects := (i :: issues).map fun i => i.toJson.textAt 2
    have hobjects : List.Forall₂ IsObject (i :: issues) objects := by
      rw [List.forall₂_map_right_iff]
      exact List.forall₂_same.2 fun i _ => textAt_issue_isObject i
    have harray : (Json.array ((i :: issues).map Issue.toJson)).textAt 1
        = "[\n" ++ "    " ++ ",\n    ".intercalate objects ++ "\n" ++ "  " ++ "]" := by
      rw [List.map_cons]
      rw [Json.textAt_array_cons]
      rw [← List.map_cons]
      rw [List.map_map]
      rfl
    have hreport : jsonReport (i :: issues)
        = "\x7b\n" ++ "  " ++ "\"issues\"" ++ ": " ++ (Json.array ((i :: issues).map Issue.toJson)).textAt 1
            ++ "" ++ "\n" ++ "" ++ "\x7d" ++ "\n" :=
      writeLines_singleton _
    convert Lists.document (List.cons_ne_nil i issues) hobjects using 1
    rw [hreport]
    rw [harray]
    rw [← String.toList_inj]
    simp

theorem checkReport_lists {coloured quiet : Bool} {format : Format} {issues : List Issue}
    (h : checkReport coloured quiet format issues ≠ "")
    : Lists coloured format issues (checkReport coloured quiet format issues) := by
  cases format with
  | table =>
    cases quiet with
    | true => exact absurd rfl h
    | false => exact tableReport_lists coloured issues
  | json => exact jsonReport_lists coloured issues

theorem Lists.ne_empty {coloured : Bool} {format : Format} {issues : List Issue} {text : String}
    (h : Lists coloured format issues text)
    : text ≠ "" := by
  cases h with
  | emptyTable => simp
  | table => simp
  | emptyDocument => simp
  | document => simp

theorem checkReport_ne_empty (coloured : Bool) (format : Format) (issues : List Issue)
    : checkReport coloured false format issues ≠ "" := by
  cases format with
  | table => exact (tableReport_lists coloured issues).ne_empty
  | json => exact (jsonReport_lists coloured issues).ne_empty

end Command

end BackendPolicy
