/-!
# Documentation

The documentation of a symbol is divided into sections.  Their text is kept as written; markup is
left to whoever shows it.
-/

namespace SourceLens

/-- The sections of a documentation comment. -/
structure Doc where
  /-- What the symbol is for. -/
  summary : Option String := none
  /-- The parameters with their descriptions, in order. -/
  params : List (String × String) := []
  returns : Option String := none
  remarks : Option String := none
  deriving DecidableEq, Repr

namespace Doc

/-- Whether no section is present. -/
def isEmpty (doc : Doc) : Bool :=
  doc.summary.isNone && doc.params.isEmpty && doc.returns.isNone && doc.remarks.isNone

/-- The description of a parameter. -/
def param? (doc : Doc) (name : String) : Option String :=
  (doc.params.find? fun param => param.1 == name).map Prod.snd

end Doc

end SourceLens
