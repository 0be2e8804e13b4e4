import Drafting.Document
import Drafting.Session

/-!
# What a statement changes

A statement that succeeds makes exactly one change: a new page, one more shape,
one default, or one symbol.  The change is planned in full before anything is
touched, so a statement that fails leaves everything as it was.

A drawing is a document together with the session it is read in.  The effect of
a change is what is reported of it.
-/

namespace Drafting

structure Drawing where
  session : Session
  document : Document
deriving DecidableEq

inductive Change where
  | page (page : Page)
  | shape (shape : Shape)
  | default (value : DefaultValue)
  | symbol (name : String) (value : Float)
deriving DecidableEq

inductive Effect where
  | pageSet
  | shapeAdded (kind : ShapeKind) (id : String)
  | defaultUpdated (key : DefaultKey)
  | symbolAssigned (name : String) (value : Float)
deriving DecidableEq

namespace Change

def effect : Change -> Effect
  | page _ => .pageSet
  | shape s => .shapeAdded s.kind s.id
  | default value => .defaultUpdated value.key
  | symbol name value => .symbolAssigned name value

end Change

namespace Drawing

def blank : Drawing :=
  { session := .initial, document := .blank }

def enact (d : Drawing) : Change -> Drawing
  | .page page => { d with document := d.document.setPage page }
  | .shape s => { d with document := d.document.add s }
  | .default value =>
      { d with session := { d.session with defaults := d.session.defaults.set value } }
  | .symbol name value =>
      { d with session := { d.session with symbols := d.session.symbols.set name value } }

@[simp] theorem session_enact_page (d : Drawing) (page : Page) :
    (d.enact (.page page)).session = d.session := rfl

@[simp] theorem session_enact_shape (d : Drawing) (s : Shape) :
    (d.enact (.shape s)).session = d.session := rfl

@[simp] theorem document_enact_default (d : Drawing) (value : DefaultValue) :
    (d.enact (.default value)).document = d.document := rfl

@[simp] theorem document_enact_symbol (d : Drawing) (name : String) (value : Float) :
    (d.enact (.symbol name value)).document = d.document := rfl

end Drawing

end Drafting
