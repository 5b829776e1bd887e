import Acceptance.Text.AsciiForm
import Acceptance.Text.Blank

/-!
# Slugs

The slug of a title is the part of a generated name that comes from the title: the title reduced to
ASCII, trimmed, with every run of spaces and hyphens written as one underscore. It holds ASCII letters,
digits and underscores only, so a prefix that is an identifier followed by a slug is an identifier.
-/

set_option autoImplicit false

namespace Acceptance

/-- Whether a character separates the words of a slug. -/
def isSlugSeparator (c : Char) : Bool :=
  c == '-' || Text.isAsciiSpace c

/-- Write every run of separators as one underscore. The flag says that the run which the text begins
with has been written already. -/
def joinSlug : Bool → List Char → List Char
  | _, [] => []
  | written, c :: cs =>
    if isSlugSeparator c then (if written then joinSlug true cs else '_' :: joinSlug true cs)
    else c :: joinSlug false cs

/-- The slug of a list of characters. -/
def slugChars (title : List Char) : List Char :=
  joinSlug false (Text.trim (Text.asciiForm title))

/-- The slug of a title. -/
def slugify (title : String) : String :=
  String.ofList (slugChars title.toList)

end Acceptance
