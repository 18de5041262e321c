import AccountStore.Proofs.Json.Fields
import AccountStore.Proofs.Json.Text

/-!
# Serialised records

A `Record` is written as an object and read by named fields. `Reads` is what reading comes to,
from a value or from its text, in whatever order the members stand and whatever unknown members
stand among them; it follows from what the fields give (`reads_of_gives`).
-/

namespace AccountStore.Json
open Decode

/-- The members of an object. -/
def members : Json → List (String × Json)
  | .object members => members
  | _ => []

/-- Types that are written as objects and read by named fields. -/
class Record (α : Type) where
  toJson : α → Json
  fields : Fields α
  ofJson : Json → Except DecodeError α
  toJson_eq : ∀ a, toJson a = .object (toJson a).members := by
    intro a
    rfl
  ofJson_object : ∀ all, ofJson (.object all) = fromObject fields all := by
    intro all
    rfl
  lawful : fields.Lawful
  distinct (a : α) : ((toJson a).members.map Prod.fst).Nodup

namespace Record

variable {α : Type} [Record α]

/-- No field names any of the members. -/
def Unknown (α : Type) [Record α] (unknown : List (String × Json)) : Prop :=
  ∀ m ∈ unknown, m.1 ∉ (fields : Fields α).names

/-- What is read from an object with these members, in any order, and unknown ones. -/
structure Reads (members : List (String × Json)) (result : Except DecodeError α) : Prop where
  value (unknown all : List (String × Json)) : Unknown α unknown → all.Perm (members ++ unknown) →
    ofJson (.object all) = result
  /-- The same is read from the text of the object. -/
  text (unknown all : List (String × Json)) : Unknown α unknown → all.Perm (members ++ unknown) →
    Distinct (.object all) → (ofText? (compactText (.object all))).map ofJson = some result

/-- Unknown members change nothing. -/
def IgnoresUnknown (a : α) : Prop :=
  ∀ unknown all, Unknown α unknown → all.Perm ((toJson a).members ++ unknown) →
    ofJson (.object all) = (ofJson (toJson a) : Except DecodeError α)

theorem ignoresUnknown (a : α) : IgnoresUnknown a := by
  intro unknown all unnamed same
  have := lawful (α := α)
  rw [toJson_eq a, ofJson_object, ofJson_object]
  exact fromObject_eq_of_extends (distinct a) ⟨unknown, unnamed, same⟩

theorem respelledMembers_eq_map (members : List (String × Json)) :
    respelledMembers members = members.map fun m => (m.1, respelled m.2) := by
  induction members with
  | nil => rfl
  | cons m rest ih => rw [respelledMembers, ih, List.map_cons]

theorem names_respelledMembers (members : List (String × Json)) :
    (respelledMembers members).map Prod.fst = members.map Prod.fst := by
  rw [respelledMembers_eq_map, List.map_map]
  rfl

theorem member?_respelledMembers (members : List (String × Json)) (key : String) :
    member? (respelledMembers members) key = (member? members key).map Json.respelled := by
  rw [respelledMembers_eq_map, member?, member?, List.find?_map, Option.map_map, Option.map_map]
  rfl

theorem Unknown.respelled {unknown : List (String × Json)} (unnamed : Unknown α unknown) :
    Unknown α (respelledMembers unknown) := by
  intro m member
  rw [respelledMembers_eq_map] at member
  obtain ⟨n, inside, rfl⟩ := List.mem_map.1 member
  exact unnamed n inside

/-- What the fields give is what is read. -/
theorem reads_of_gives {members : List (String × Json)} {result : Except DecodeError α}
    (distinct : (members.map Prod.fst).Nodup)
    (gives : (fields : Fields α).Gives (member? members) result)
    (respelled : (fields : Fields α).Gives (member? (respelledMembers members)) result) :
    Reads members result where
  value unknown all unnamed same := by
    have := lawful (α := α)
    rw [ofJson_object]
    exact fromObject_of_extends distinct gives ⟨unknown, unnamed, same⟩
  text unknown all unnamed same noRepeats := by
    have := lawful (α := α)
    have more : (respelledMembers all).Perm
        (respelledMembers members ++ respelledMembers unknown) := by
      simpa [respelledMembers_eq_map] using same.map fun m => (m.1, Json.respelled m.2)
    rw [ofText?_compactText noRepeats, Json.respelled, Option.map_some, ofJson_object]
    refine congrArg some (fromObject_of_extends ?_ respelled ⟨_, unnamed.respelled, more⟩)
    rw [names_respelledMembers]
    exact distinct

end Record
end AccountStore.Json
