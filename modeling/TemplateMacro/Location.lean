import TemplateMacro.Value.Scalar
/-!
Call-site locations and how diagnostics cite them. A location names a template and a line and
column, each a plain value that may be nothing; a diagnostic site is either a location or a
label, a plain value supplied by the caller. A location is always cited, a label when it is
truthy.
-/

namespace TemplateMacro

/-- A position in a template: the template's name, the line and the column, each as given. -/
structure Location where
  template : Scalar := .null
  line : Scalar := .null
  column : Scalar := .null
deriving DecidableEq, Repr

namespace Location

def unknownTemplate : String := "<unknown template>"

def templateName (template : Scalar) : String :=
  if template.truthy then template.text else unknownTemplate

def describe (l : Location) : String :=
  let name := templateName l.template
  match l.line with
  | .null => name
  | line =>
    name ++ "[line " ++ line.text ++ ", column " ++
      (if l.column.truthy then l.column.text else "0") ++ "]"

end Location

/-- Where a diagnostic happened: a location, or a label given by the caller. -/
inductive Site
  | position (loc : Location)
  | label (c : Scalar)
deriving DecidableEq, Repr

namespace Site

def describe : Site → String
  | position l => l.describe
  | label c => c.text

def cited : Site → Bool
  | position _ => true
  | label c => c.truthy

def recorded (s : Site) : String := if s.cited then s.describe else ""

end Site

end TemplateMacro
