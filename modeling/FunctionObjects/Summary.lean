import FunctionObjects.Function.Creation
import FunctionObjects.Text.Quoted

/-!
# Summaries

One-line descriptions of objects and functions, for people who look into a store. A summary is a
heading and a list of named fields in braces; what may be missing is shown as `Some` or `None`.
-/

namespace FunctionObjects

namespace Summary

/-- A heading and named fields. -/
def record (heading : String) (fields : List (String × String)) : String :=
  heading ++ " \x7b " ++ String.intercalate ", " (fields.map fun f => f.1 ++ ": " ++ f.2) ++ " \x7d"

def optional : Option String → String
  | some text => "Some(" ++ text ++ ")"
  | none => "None"

def truth (b : Bool) : String := if b then "true" else "false"

end Summary

open Summary

/-- The function part of an object. Its name is the one in the source text. -/
def FunctionSlots.summary (slots : FunctionSlots) : String :=
  record "FunctionSlots"
    [("name", optional (slots.definition.name.map Quoted.quote)),
      ("species", slots.species.label),
      ("this_mode", slots.thisMode.label),
      ("strict", truth slots.strict),
      ("is_constructor", truth slots.isConstructor),
      ("realm", toString slots.realm.id)]

/-- An object, with its handle if it has been told one. Of the prototype only the handle is shown,
so one without a handle looks like none. -/
def Object.summary (s : Store) (o : Object) : String :=
  record "JsObjectData"
    [("id", optional (o.id.map toString)),
      ("class_name", Quoted.quote o.className),
      ("keys", Quoted.quoteAll o.ownKeys),
      ("prototype", optional ((s.prototypeId? o).map toString)),
      ("callable", optional ((o.slots.bind s.function?).map FunctionSlots.summary))]

/-- A function object, by its handle, its name as a property, and its function part. -/
def Closure.summary (c : Closure) (o : Object) (slots : FunctionSlots) : String :=
  record "Closure"
    [("object", toString c.id),
      ("name", Quoted.quote o.functionName.toText),
      ("slots", slots.summary)]

end FunctionObjects
