import BackendPolicy.Hcl.Expression
import BackendPolicy.Proofs.Hcl.Advance

/-!
This module contains the parsers of lexemes, templates and expressions as parsers that only read on.
-/

namespace BackendPolicy.Hcl

open BackendPolicy.Hcl.Parser

-- An instance for a long sequence of parsers takes one step for each of them.
set_option synthInstance.maxSize 1000

instance : Advances lineEnding := by
  unfold lineEnding
  infer_instance

instance : Advances lineComment := by
  unfold lineComment
  refine .bind inferInstance fun _ => .bind inferInstance fun _ => .bind inferInstance fun cs => ?_
  split <;> infer_instance

instance : Advances inlineComment := by
  unfold inlineComment
  refine .bind inferInstance fun _ => .bind inferInstance fun cs => ?_
  split <;> infer_instance

instance : Advances blanks := by
  unfold blanks
  infer_instance

instance : Advances space := by
  unfold space
  infer_instance

instance : Advances ident := by
  unfold ident
  refine .bind inferInstance fun cs => ?_
  split <;> infer_instance

instance : Advances needIdent := by
  unfold needIdent
  infer_instance

instance : Advances digits := by
  unfold digits
  infer_instance

instance (cs : List Char) : Advances (unsigned cs) := by
  unfold unsigned
  infer_instance

instance : Advances position := by
  unfold position
  refine .bind inferInstance fun cs => ?_
  split <;> infer_instance

instance : Advances exponent := by
  unfold exponent
  infer_instance

instance : Advances floatLiteral := by
  unfold floatLiteral
  refine .bind inferInstance fun whole => .bind inferInstance fun fraction => ?_
  split
  . refine .bind inferInstance fun power => ?_
    dsimp only
    split <;> infer_instance
  . refine .bind inferInstance fun power => ?_
    dsimp only
    split <;> infer_instance

instance : Advances number := by
  unfold number
  infer_instance

instance : Advances negativeNumber := by
  unfold negativeNumber
  infer_instance

instance : Advances doubledMarker := by
  unfold doubledMarker
  infer_instance

instance (count : Nat) : Advances (codePoint count) := by
  unfold codePoint
  refine .expect (.bind inferInstance fun cs => ?_) _
  dsimp only
  split
  . split <;> infer_instance
  . infer_instance

instance : Advances escapeSequence := by
  unfold escapeSequence
  refine .bind inferInstance fun _ => .bind inferInstance fun c => ?_
  split <;> infer_instance

instance : Advances quotedFragment := by
  unfold quotedFragment
  infer_instance

instance : Advances quotedText := by
  unfold quotedText
  refine .bind inferInstance fun first => .bind (p := iterate _ _) (.iterate ?_ _) inferInstance
  intro (done, isDone)
  cases isDone with
  | true => infer_instance
  | false =>
    refine .bind inferInstance fun start => .bind inferInstance fun found => ?_
    split <;> infer_instance

instance : Advances quotedString := by
  unfold quotedString
  infer_instance

theorem consumes_ident : ident.Consumes := by
  intro c
  unfold ident
  rw [ensures_bind]
  rw [ensures_rest]
  split
  . next x cs hrest =>
    split
    . intro _ next heq
      cases heq
      exact Cursor.offset_lt_advance hrest _
    . exact ensures_fail
  . exact ensures_fail

theorem consumes_quotedString : quotedString.Consumes := by
  unfold quotedString
  exact .bind (consumes_token rfl)

section

variable (nested : Nested) [∀ mode, Advances (nested mode)]

instance (fragment : Parser (List Char)) [Advances fragment] : Advances (literalOf fragment) := by
  unfold literalOf
  refine .bind (p := many _) inferInstance fun fragments => ?_
  split <;> infer_instance

instance (stops : List Char → Bool) : Advances (rawLiteral stops) := by
  unfold rawLiteral
  infer_instance

instance : Advances tilde := by
  unfold tilde
  infer_instance

section

variable {α : Type} (inside : Parser α) [Advances inside]

instance (opening : String) : Advances (marker opening inside) := by
  unfold marker
  infer_instance

instance (word : Parser Unit) [Advances word] : Advances (directiveMarker word inside) := by
  unfold directiveMarker
  infer_instance

end

instance : Advances (interpolation nested) := by
  unfold interpolation
  infer_instance

instance : Advances binders := by
  unfold binders
  refine .bind inferInstance fun _ => .bind inferInstance fun _ => .bind inferInstance fun second =>
    .bind inferInstance fun _ => ?_
  split <;> infer_instance

section

variable (body : Parser (List Piece)) [Advances body]

instance : Advances (ifDirective nested body) := by
  unfold ifDirective
  refine .bind inferInstance fun _ => .bind inferInstance fun _ => .bind inferInstance fun otherwise =>
    .bind inferInstance fun _ => ?_
  dsimp only
  split <;> infer_instance

instance : Advances (forDirective nested body) := by
  unfold forDirective
  infer_instance

instance (literal : Parser Piece) [Advances literal] : Advances (piecesWith nested body literal) := by
  unfold piecesWith
  infer_instance

end

instance (depth : Nat) : Advances (rawPieces nested depth) := by
  induction depth with
  | zero => exact inferInstanceAs (Advances fail)
  | succ depth ih =>
    unfold rawPieces
    infer_instance

instance (literal : Parser Piece) [Advances literal] : Advances (pieces nested literal) := by
  unfold pieces
  exact .of_cursor (p := fun c => piecesWith nested (rawPieces nested c.rest.length) literal) inferInstance

instance : Advances (quotedTemplate nested) := by
  unfold quotedTemplate
  infer_instance

instance : Advances (heredocLines nested) := by
  unfold heredocLines
  infer_instance

instance : Advances (heredoc nested) := by
  unfold heredoc
  infer_instance

instance (mode : Mode) : Advances (gap mode) := by
  unfold gap
  infer_instance

instance : Advances (loopIntro nested) := by
  unfold loopIntro
  infer_instance

variable (mode : Mode)

instance : Advances (loopCondition nested mode) := by
  unfold loopCondition
  infer_instance

instance : Advances (listLoop nested mode) := by
  unfold listLoop
  infer_instance

instance : Advances (arrayItems nested mode) := by
  unfold arrayItems
  infer_instance

instance : Advances (array nested mode) := by
  unfold array
  infer_instance

instance : Advances (objectLoop nested mode) := by
  unfold objectLoop
  infer_instance

instance : Advances fieldLineEnding := by
  unfold fieldLineEnding
  infer_instance

instance : Advances fieldEnd := by
  unfold fieldEnd
  refine .bind inferInstance fun cs => ?_
  split <;> infer_instance

instance : Advances (objectField nested) := by
  unfold objectField
  infer_instance

instance : Advances (objectFields nested) := by
  unfold objectFields
  refine .bind (.spanned (p := iterate _ _) (.iterate (fun fields => ?_) _)) inferInstance
  refine .bind inferInstance fun cs => ?_
  split <;> infer_instance

instance : Advances (object nested mode) := by
  unfold object
  infer_instance

instance : Advances (callArgs nested mode) := by
  unfold callArgs
  extract_lets arg
  have harg : Advances arg := by
    refine .bind inferInstance fun _ => .bind inferInstance fun cs => ?_
    split <;> infer_instance
  infer_instance

instance : Advances (named nested mode) := by
  unfold named
  refine .bind inferInstance fun name => .bind inferInstance fun cs => ?_
  split
  . infer_instance
  . infer_instance
  . split <;> infer_instance

instance : Advances (parenthesis nested) := by
  unfold parenthesis
  infer_instance

instance : Advances unaryOp := by
  unfold unaryOp
  extract_lets one
  have hone : Advances one := by
    refine .bind inferInstance fun cs => ?_
    split
    . infer_instance
    . refine .bind inferInstance fun found => ?_
      split <;> infer_instance
    . infer_instance
  refine .bind (p := many _) inferInstance fun ops => ?_
  split <;> infer_instance

instance : Advances (quotedTerm nested) := by
  unfold quotedTerm
  infer_instance

instance : Advances (operand nested mode) := by
  unfold operand
  refine .bind inferInstance fun cs => ?_
  split <;> infer_instance

instance : Advances (term nested mode) := by
  unfold term
  refine .bind inferInstance fun op => .bind inferInstance fun _ => ?_
  dsimp only
  split <;> infer_instance

instance : Advances (step nested) := by
  unfold step
  refine .orElse ?_ ?_
  . refine .bind inferInstance fun _ => .bind inferInstance fun _ => .bind inferInstance fun cs => ?_
    split <;> infer_instance
  . refine .bind inferInstance fun _ => .bind inferInstance fun _ => .bind inferInstance fun cs => ?_
    split <;> infer_instance

instance : Advances binaryOp := by
  unfold binaryOp
  refine .bind inferInstance fun cs => ?_
  split <;> infer_instance

instance (conditionals : Bool) (chain : Chain) : Advances (chain.extend nested conditionals) := by
  unfold Chain.extend
  split
  . infer_instance
  . refine .bind inferInstance fun _ => .bind inferInstance fun cs => ?_
    split <;> infer_instance

instance : Advances (expressionWith nested mode) := by
  unfold expressionWith
  refine .bind inferInstance fun (e, newlines) => ?_
  exact .bind (p := iterate _ _) (.iterate inferInstance _) inferInstance

end

instance (depth : Nat) (mode : Mode) : Advances (expressionWithin depth mode) := by
  induction depth generalizing mode with
  | zero => exact inferInstanceAs (Advances fail)
  | succ depth ih =>
    unfold expressionWithin
    infer_instance

instance (mode : Mode) : Advances (expression mode) :=
  .of_cursor (p := fun c => expressionWithin (c.rest.length + 1) mode) inferInstance

end BackendPolicy.Hcl
