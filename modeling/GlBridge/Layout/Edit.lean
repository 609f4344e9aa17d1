import GlBridge.Text.Basic

/-!
# Edits of a text

An edit replaces the characters of a span; an insertion is an edit of an empty span.  The passes
over declarations give their edits in the order of the text, so applying them is one walk through
it.
-/

namespace GlBridge

/-- A replacement for the characters of a span. -/
structure Edit where
  span : Span
  text : Text
deriving DecidableEq, Repr

namespace Edit

/-- The text from `position` on with the edits made, what lies between them passed through
`between`. -/
def applyFrom (between : Text → Text) (source : Text) (position : Nat) : List Edit → Text
  | [] => between (source.drop position)
  | edit :: edits =>
    between (source.slice position edit.span.start) ++ edit.text
      ++ applyFrom between source edit.span.stop edits

/-- The text with the edits made. -/
def applyAll (source : Text) (edits : List Edit) : Text := applyFrom id source 0 edits

@[simp] theorem applyAll_nil (source : Text) : applyAll source [] = source := rfl

end Edit
end GlBridge
