import Switchboard.Session.Answer

/-!
Sessions on one record and on one shape.
-/

namespace Switchboard

/-! ### A record -/

/-- A step on a record. -/
inductive RecordStep where
  | set (name : String) (value : Value)
  | get (name : String)
  | getStr (name : String)
  | getInt (name : String)
  | textOf (name : String)
  | typeOf (name : String)
  | fields
  | size
  | isEmpty
  | tag
  | inline
  | indented

namespace Record

/-- The reply to a step, and the record after it. Setting a field is answered with the size. -/
def next (r : Record) : RecordStep → Reply × Record
  | .set name value => (.count (r.set name value).size, r.set name value)
  | .get name => (.ofOption .value (r.get? name), r)
  | .getStr name => (.ofOption .text (r.getStr? name), r)
  | .getInt name => (.ofOption .number (r.getInt? name), r)
  | .textOf name => (.ofOption (.text ·.text) (r.get? name), r)
  | .typeOf name => (.ofOption (.text ·.typeName) (r.get? name), r)
  | .fields => (.fields r.fields.entries, r)
  | .size => (.count r.size, r)
  | .isEmpty => (.flag r.isEmpty, r)
  | .tag => (.text r.tag, r)
  | .inline => (.text r.outline.inline, r)
  | .indented => (.text r.outline.indented, r)

/-- The answers of a session that starts from this record. -/
def play (r : Record) (steps : List RecordStep) : List Answer :=
  playWith (fun r step => (.done (r.next step).1, (r.next step).2)) r steps

end Record

/-! ### A shape -/

/-- A step on a shape. -/
inductive ShapeStep where
  | declare (declaration : Declaration)
  | tag
  | names
  | build (arguments : History Value)
  | inline
  | indented

namespace Shape

/-- The answer to a step, and the shape after it. A declaration is answered with their number. -/
def next (s : Shape) : ShapeStep → Answer × Shape
  | .declare declaration =>
    (.done (.count (s.declare declaration).declarations.length), s.declare declaration)
  | .tag => (.done (.text s.tag), s)
  | .names => (.done (.names s.names), s)
  | .build arguments =>
    (.ofRun (Verdict.ofExcept .record <$> (RecordSpec.shaped s arguments).make), s)
  | .inline => (.done (.text s.outline.inline), s)
  | .indented => (.done (.text s.outline.indented), s)

/-- The answers of a session that starts from this shape. -/
def play (s : Shape) (steps : List ShapeStep) : List Answer :=
  playWith next s steps

end Shape

end Switchboard
