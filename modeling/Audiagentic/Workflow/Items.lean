import Audiagentic.Foundations.Dictionaries

/-!
# Workflow items

An item is a file with fields, some of which refer to other items by their ids.  The store of the
host is a list of items at distinct paths.
-/

namespace Audiagentic.Workflow

open Foundations

/-! ## Items -/

inductive FieldValue where
  | null
  | text (value : String)
  | number (value : Int)
  | list (values : List FieldValue)
  | dict (entries : List (String × FieldValue))
  | other

abbrev ItemData := Dict String FieldValue

structure ItemView where
  kind : String
  path : String
  data : ItemData

namespace ItemView

/-- `data.get(field)`. -/
def get (item : ItemView) (field : String) : FieldValue :=
  (item.data.lookup field).getD .null

def id? (item : ItemView) : Option String :=
  match item.get "id" with
  | .text value => some value
  | _ => none

end ItemView

mutual

def extractRefIds : FieldValue → List String
  | .text value => [value]
  | .dict entries =>
    match entries.lookup "ref" with
    | some (.text ref) => if ref = "" then [] else [ref]
    | _ => []
  | .list values => extractAllRefIds values
  | .null | .number _ | .other => []

def extractAllRefIds : List FieldValue → List String
  | [] => []
  | value :: values => extractRefIds value ++ extractAllRefIds values

end

structure ItemStore where
  items : List ItemView
  distinct : (items.map (·.path)).Nodup

namespace ItemStore

/-- `lookup`; `_find` raises `KeyError` where it gives nothing. -/
def find? (store : ItemStore) (id : String) : Option ItemView :=
  store.items.find? fun item => item.id? = some id

end ItemStore

inductive WorkflowError where
  | keyError (key : String)

end Audiagentic.Workflow
