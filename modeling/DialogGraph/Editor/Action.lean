import DialogGraph.Editor.Address
import DialogGraph.Editor.Body

/-!
# Actions of the editor

A request is read as an action. Everything about its form is settled here; whether the blocks and
edges that it names exist is not.
-/

namespace DialogGraph.Editor

inductive Method where
  | get
  | head
  | put
  | post
  | patch
  | delete
  deriving Repr, DecidableEq

def Method.ofName? (name : String) : Option Method :=
  match name with
  | "GET" => some get
  | "HEAD" => some head
  | "PUT" => some put
  | "POST" => some post
  | "PATCH" => some patch
  | "DELETE" => some delete
  | _ => none

/-- A request. One without a body has an empty body. -/
structure Request where
  method : String
  address : String
  body : String := ""

inductive PreviewAction where
  /-- Begin anew, perhaps step by step. -/
  | start (stepwise : Bool)
  | text (text : String)
  | press (tag : String)
  deriving Repr, DecidableEq

/-- What the editor is asked to do. -/
inductive Action where
  | health
  | showFlow
  | replaceFlow (data : Fields)
  | create (type : String) (x y : Value)
  | setField (id field : String) (value : Value)
  | move (id : String) (x y : Value)
  | delete (id : String)
  | showPorts (id : String)
  | connect (source port target : String)
  | disconnect (id : String)
  | undo
  | redo
  | compile (name token : Option String)
  | showPreview
  | play (action : PreviewAction)
  | resume
  | showManual

namespace Action

def readCreate (data : Fields) : Read Action :=
  ((required data "type" Setting.text).both
    ((optional data "x" (.int 0) coordinate).both (optional data "y" (.int 0) coordinate))).map
      fun (type, x, y) => .create type x y

def readSetField (id : String) (data : Fields) : Read Action :=
  (required data "field" Setting.text).map fun field =>
    .setField id field ((Assoc.get? data "value").getD .null)

def readMove (id : String) (data : Fields) : Read Action :=
  ((required data "x" coordinate).both (required data "y" coordinate)).map
    fun (x, y) => .move id x y

def readConnect (data : Fields) : Read Action :=
  ((required data "fromNodeId" Setting.text).both
    ((required data "fromPort" Setting.text).both (required data "toNodeId" Setting.text))).map
      fun (source, port, target) => .connect source port target

def readCompile (data : Fields) : Read Action :=
  ((optional data "name" none textOrNull).both (optional data "token" none textOrNull)).map
    fun (name, token) => .compile name token

def readFlow (body : String) : Except Refusal Action := do
  let value ← bodyValue body
  ((bodyFields .notARecord value).map .replaceFlow).mapError .invalid

def readStart (address : Address) : Except Refusal Action :=
  match address.parameter? "step" with
  | none => .ok (.play (.start false))
  | some word =>
    match Setting.truth (.text word) with
    | .ok stepwise => .ok (.play (.start stepwise))
    | .error problem => .error (.invalid [⟨.query "step", .problem problem⟩])

def readAt (address : Address) (body : String) : Resource → Method → Except Refusal Action
  | .health, .get => .ok .health
  | .flow, .get => .ok .showFlow
  | .flow, .put => readFlow body
  | .blocks, .post => readBody body readCreate
  | .block id, .patch => readBody body (readSetField id)
  | .block id, .delete => .ok (.delete id)
  | .place id, .put => readBody body (readMove id)
  | .ports id, .get => .ok (.showPorts id)
  | .edges, .post => readBody body readConnect
  | .edge id, .delete => .ok (.disconnect id)
  | .undo, .post => .ok .undo
  | .redo, .post => .ok .redo
  | .program, .post => readBodyOr body (.compile none none) readCompile
  | .preview, .get => .ok .showPreview
  | .start, .post => readStart address
  | .text, .post =>
    readBody body fun data =>
      (required data "text" Setting.text).map fun text => .play (.text text)
  | .press, .post =>
    readBody body fun data => (required data "tag" Setting.text).map fun tag => .play (.press tag)
  | .resume, .post => .ok .resume
  | .manual, .get => .ok .showManual
  | .manual, .head => .ok .showManual
  | _, _ => .error .badMethod

/-- Whether a path names something once the slashes at its end are dropped. -/
def hasSpareSlash (path : String) : Bool :=
  path.endsWith "/" && (Resource.ofPath? (withoutSlashes path)).isSome

def ofRequest (request : Request) : Except Refusal Action :=
  let address := Address.ofText request.address
  match Resource.ofPath? address.path with
  | none => .error (if hasSpareSlash address.path then .moved else .notFound)
  | some resource =>
    match Method.ofName? request.method with
    | none => .error .badMethod
    | some method => readAt address request.body resource method

end Action

end DialogGraph.Editor
