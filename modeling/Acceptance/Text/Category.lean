/-!
# General categories

The general category that the Unicode standard gives to every code point, as a type. Its values carry
the two-letter abbreviations of the standard. The table of code points is in
`Acceptance.Text.CategoryTable`.
-/

set_option autoImplicit false

namespace Acceptance.Text

/-- The general category of a code point. -/
inductive Category where
  /-- Uppercase letter. -/
  | lu
  /-- Lowercase letter. -/
  | ll
  /-- Titlecase letter. -/
  | lt
  /-- Modifier letter. -/
  | lm
  /-- Other letter. -/
  | lo
  /-- Nonspacing mark. -/
  | mn
  /-- Spacing mark. -/
  | mc
  /-- Enclosing mark. -/
  | me
  /-- Decimal number. -/
  | nd
  /-- Letter number. -/
  | nl
  /-- Other number. -/
  | no
  /-- Connector punctuation. -/
  | pc
  /-- Dash punctuation. -/
  | pd
  /-- Open punctuation. -/
  | ps
  /-- Close punctuation. -/
  | pe
  /-- Initial punctuation. -/
  | pi
  /-- Final punctuation. -/
  | pf
  /-- Other punctuation. -/
  | po
  /-- Math symbol. -/
  | sm
  /-- Currency symbol. -/
  | sc
  /-- Modifier symbol. -/
  | sk
  /-- Other symbol. -/
  | so
  /-- Space separator. -/
  | zs
  /-- Line separator. -/
  | zl
  /-- Paragraph separator. -/
  | zp
  /-- Control. -/
  | cc
  /-- Format. -/
  | cf
  /-- Surrogate. -/
  | cs
  /-- Private use. -/
  | co
  /-- Unassigned. -/
  | cn
  deriving DecidableEq, Repr, Inhabited

namespace Category

/-- A letter of any case, or of none. -/
def isLetter : Category → Bool
  | lu | ll | lt | lm | lo => true
  | _ => false

/-- A combining mark. -/
def isMark : Category → Bool
  | mn | mc | me => true
  | _ => false

/-- A decimal digit, a letter number or another number. -/
def isNumber : Category → Bool
  | nd | nl | no => true
  | _ => false

/-- A separator of any kind. -/
def isSeparator : Category → Bool
  | zs | zl | zp => true
  | _ => false

/-- A code point that stands for no character of text: control, format, surrogate, private or
unassigned. -/
def isOther : Category → Bool
  | cc | cf | cs | co | cn => true
  | _ => false

end Category

end Acceptance.Text
