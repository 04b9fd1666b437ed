import TitleStamp.Template.Render

/-!
# The trace of a rendering

A trace lists the lexemes of a pattern with the bytes they span and the text they rendered to.
-/

namespace TitleStamp

/-- What produced a piece of rendered text. -/
inductive TokenKind where
  | placeholder
  | function
  | literal
  deriving DecidableEq, Repr

namespace TokenKind

/-- The word for a kind of token. -/
def label : TokenKind → Text
  | placeholder => "placeholder".toList
  | function => "function".toList
  | literal => "literal".toList

end TokenKind

/-- The kind of token a lexeme gives. -/
def Lexeme.kind : Lexeme → TokenKind
  | .placeholder _ => .placeholder
  | .call _ _ => .function
  | .literal _ => .literal

/-- A lexeme in its place, with the text it rendered to. -/
structure Token where
  kind : TokenKind
  /-- The first byte of the lexeme in the pattern. -/
  start : Nat
  /-- The byte after the lexeme. -/
  stop : Nat
  source : Text
  value : Text
  deriving DecidableEq, Repr

/-- Places lexemes one after another, the first at a given byte. -/
def placeLexemes (values : Variables) : (start : Nat) → List Lexeme → List Token
  | _, [] => []
  | start, lexeme :: rest =>
      let stop := start + Text.byteLength lexeme.source
      ⟨lexeme.kind, start, stop, lexeme.source, lexeme.value values⟩ ::
        placeLexemes values stop rest

/-- The tokens of a pattern when calls are applied.  A call inside another call belongs to the
token of the outer one. -/
def trace (values : Variables) (pattern : Text) : List Token :=
  placeLexemes values 0 (lexemes .applied pattern)

/-- Joins each run of adjacent literals into one token. -/
def mergeLiterals : List Token → List Token
  | [] => []
  | token :: rest =>
      match token.kind, mergeLiterals rest with
      | .literal, next :: others =>
          if next.kind = .literal ∧ token.stop = next.start then
            ⟨.literal, token.start, next.stop, token.source ++ next.source,
              token.value ++ next.value⟩ :: others
          else
            token :: next :: others
      | _, merged => token :: merged

end TitleStamp
