import ComponentDocs.Yaml.Document

/-!
# What the library runs on

The library does not read documents itself, and it does not decide how deep a value may be to be
written. A `Runtime` is what it takes both from. Everything that reads a header or settings takes a
runtime as its first argument; `Runtime.own` is the one that the program runs on.
-/

set_option autoImplicit false

namespace ComponentDocs

/-- What reads documents, and what limits the writing of values. -/
structure Runtime where
  /-- The document of a text, if the text has one. -/
  load : Text → Except Yaml.Error (Option Yaml.Document)
  /-- The most literals that may stand inside each other in the literal of a value. -/
  reach : Nat

/-- Documents read as in `Yaml`. A thousand steps may be under way at a time, less those that are when
a document is read, or when a value is written. -/
def Runtime.own : Runtime where
  load := Yaml.load 977
  reach := 990

end ComponentDocs
