import Mathlib.Data.Fintype.EquivFin
import Mathlib.Data.List.Nodup
import Accessors.Fragment.Basic
import Accessors.Proofs.Bodies

namespace Accessors

namespace Fields

def declared : Fields → List (String × Token)
  | named fields => fields.items.map fun (name, _) => (name.name, .ident name)
  | tuple fields => (List.range fields.items.length).map fun i => (toString i, .number i)
  | unit => []

-- The identifiers of the fields without the raw mark.
def identifiers : Fields → List String
  | named fields => fields.items.map fun (name, _) => name.name
  | tuple _ => []
  | unit => []

theorem position_members (fields : Fields) :
    fields.members.map Member.position = List.range fields.declared.length := by
  cases fields
  case named fields =>
    simp [members, declared, Function.comp_def, List.zipIdx_map_snd, List.range_eq_range']
  case tuple fields =>
    simp [members, declared, Function.comp_def, List.zipIdx_map_snd, List.range_eq_range']
  case unit => rfl

-- An index has 32 bits, which is enough for so many fields.
theorem access_members {fields : Fields} (hn : fields.declared.length < UInt32.size) :
    fields.members.map (fun m => (m.name, m.access.token)) = fields.declared := by
  cases fields
  case named fields =>
    calc
      (named fields).members.map (fun m => (m.name, m.access.token))
        = (fields.items.zipIdx.map Prod.fst).map fun (name, _) => (name.name, .ident name) := by
          rw [members, List.map_map, List.map_map]
          rfl
      _ = (named fields).declared := by rw [List.zipIdx_map_fst, declared]
  case tuple fields =>
    have hl : fields.items.length < UInt32.size := by simpa [declared] using hn
    have hi : ∀ i ∈ List.range fields.items.length,
        (toString i, Token.number (UInt32.ofNat i).toNat) = (toString i, Token.number i) := by
      intro i hi
      rw [UInt32.toNat_ofNat_of_lt' (Nat.lt_trans (List.mem_range.mp hi) hl)]
    calc
      (tuple fields).members.map (fun m => (m.name, m.access.token))
        = (fields.items.zipIdx.map Prod.snd).map fun i =>
            (toString i, Token.number (UInt32.ofNat i).toNat) := by
          rw [members, List.map_map, List.map_map]
          rfl
      _ = (tuple fields).declared := by
          rw [List.zipIdx_map_snd, ← List.range_eq_range', declared, List.map_congr_left hi]
  case unit => rfl

theorem nodup_names {fields : Fields} (hd : fields.identifiers.Nodup) :
    (fields.declared.map Prod.fst).Nodup := by
  cases fields
  case named fields => simpa [declared, identifiers, Function.comp_def] using hd
  case tuple fields =>
    have hi : Function.Injective (toString : Nat → String) := by
      intro i j h
      have h := congrArg readNumber? h
      rwa [readNumber?_toString, readNumber?_toString, Option.some_inj] at h
    rw [declared, List.map_map]
    exact List.nodup_range.map hi
  case unit => exact List.nodup_nil

theorem exists_undeclared (fields : Fields) : ∃ s, s ∉ fields.declared.map Prod.fst := by
  have ⟨s, hs⟩ := Infinite.exists_notMem_finset (fields.declared.map Prod.fst).toFinset
  exact ⟨s, fun h => hs (List.mem_toFinset.mpr h)⟩

end Fields

-- What the three accessors of a struct say if they agree with each other and with its declaration.
structure Agreement (fields : Fields) (v : Value) (owner : String) (byIndex byName : Match)
    (listed : Enumeration) : Prop where
  keys : byIndex.key = "index" ∧ byName.key = "name"
  same (i : Nat) (h : i < fields.declared.length) :
    byIndex.value? (.index i) = some (v.referenceTo fields.declared[i].2) ∧
    byName.value? (.name fields.declared[i].1) = some (v.referenceTo fields.declared[i].2) ∧
    listed.pairs[i]? = some (fields.declared[i].1, v.referenceTo fields.declared[i].2)
  outOfRange (i : Nat) (h : fields.declared.length ≤ i) :
    byIndex.value? (.index i) = some (Method.unreachable (Method.outOfRange owner) "index")
  notNamed (s : String) (h : s ∉ fields.declared.map Prod.fst) :
    byName.value? (.name s) = some (Method.unreachable (Method.notNamed owner) "name")
  indexArms (j : Nat) (h : j < byIndex.arms.length) : byIndex.position? (.index j) = some j
  nameArms (j : Nat) (h : j < byName.arms.length) : ∃ s, byName.position? (.name s) = some j
  length : listed.pairs.length = fields.declared.length
  count : listed.count = listed.pairs.length
  result : listed.result = Method.globalPath ["core", "iter", "IntoIterator", "into_iter"] ++
    [.enclosed .paren [.word listed.array]]

theorem fits_number (i j : Nat) (result : List Token) :
    Arm.fits ⟨.number j, result⟩ (.index i) = true ↔ i = j := by
  simp only [Arm.fits, Token.number, Key.read?_toString, beq_iff_eq, Option.some_inj,
    Key.index.injEq]
  exact eq_comm

theorem fits_string (s t : String) (result : List Token) :
    Arm.fits ⟨.string t, result⟩ (.name s) = true ↔ s = t := by
  simp only [Arm.fits, Token.string, Key.read?_quote, beq_iff_eq, Option.some_inj, Key.name.injEq]
  exact eq_comm

namespace Fields

theorem length_members (fields : Fields) : fields.members.length = fields.declared.length := by
  simpa using congrArg List.length fields.position_members

variable {fields : Fields} {v : Value} {i : Nat}

theorem getElem?_members (hn : fields.declared.length < UInt32.size)
    (h : i < fields.declared.length) : ∃ m, fields.members[i]? = some m ∧ m.position = i ∧
      m.name = fields.declared[i].1 ∧ m.access.token = fields.declared[i].2 := by
  have hm : i < fields.members.length := by rwa [length_members]
  refine ⟨fields.members[i], List.getElem?_eq_getElem hm, ?_, ?_⟩
  · have := congrArg (·[i]?) fields.position_members
    simpa [h, hm] using this
  · have := congrArg (·[i]?) (access_members hn)
    simpa [h, hm, Prod.ext_iff] using this

def indexed (fields : Fields) (v : Value) : List (Nat × List Token) :=
  fields.members.map fun m => (m.position, v.reference m.access)

def labelled (fields : Fields) (v : Value) : List (String × List Token) :=
  fields.members.map fun m => (m.name, v.reference m.access)

theorem indexed_keys : (fields.indexed v).map Prod.fst = List.range fields.declared.length := by
  rw [indexed, List.map_map, ← position_members]
  rfl

theorem labelled_keys (hn : fields.declared.length < UInt32.size) :
    (fields.labelled v).map Prod.fst = fields.declared.map Prod.fst := by
  rw [labelled, ← access_members hn, List.map_map, List.map_map]
  rfl

theorem getElem?_indexed (hn : fields.declared.length < UInt32.size)
    (h : i < fields.declared.length) :
    (fields.indexed v)[i]? = some (i, v.referenceTo fields.declared[i].2) := by
  have ⟨m, hm, hp, _, ht⟩ := getElem?_members hn h
  rw [indexed, List.getElem?_map, hm, Option.map_some, v.reference_eq, hp, ht]

theorem getElem?_labelled (hn : fields.declared.length < UInt32.size)
    (h : i < fields.declared.length) :
    (fields.labelled v)[i]? = some (fields.declared[i].1, v.referenceTo fields.declared[i].2) := by
  have ⟨m, hm, _, hl, ht⟩ := getElem?_members hn h
  rw [labelled, List.getElem?_map, hm, Option.map_some, v.reference_eq, hl, ht]

end Fields

def Fields.matchIndex (fields : Fields) (v : Value) (owner : String) : Match :=
  .ofKeys "index" (fields.indexed v) (Method.unreachable (Method.outOfRange owner) "index") .number

def Fields.matchName (fields : Fields) (v : Value) (owner : String) : Match :=
  .ofKeys "name" (fields.labelled v) (Method.unreachable (Method.notNamed owner) "name") .string

def Fields.enumeration (fields : Fields) (v : Value) : Enumeration where
  array := "members"
  count := fields.members.length
  pairs := fields.labelled v
  result := Method.globalPath ["core", "iter", "IntoIterator", "into_iter"] ++
    [.enclosed .paren [.word "members"]]

theorem Agreement.of_distinct {fields : Fields} {v : Value} {owner : String}
    (hn : fields.declared.length < UInt32.size) (hd : fields.identifiers.Nodup) :
    Agreement fields v owner (fields.matchIndex v owner) (fields.matchName v owner)
      (fields.enumeration v) := by
  have hi : ((fields.indexed v).map Prod.fst).Nodup := by
    rw [Fields.indexed_keys]
    exact List.nodup_range
  have hl : ((fields.labelled v).map Prod.fst).Nodup := by
    rw [Fields.labelled_keys hn]
    exact Fields.nodup_names hd
  have ho {i : Nat} (h : fields.declared.length ≤ i) : i ∉ (fields.indexed v).map Prod.fst := by
    simpa [Fields.indexed_keys] using h
  constructor
  case keys => exact ⟨rfl, rfl⟩
  case same =>
    intro i h
    exact ⟨Match.value?_entry fits_number hi (Fields.getElem?_indexed hn h),
      Match.value?_entry fits_string hl (Fields.getElem?_labelled hn h),
      Fields.getElem?_labelled hn h⟩
  case outOfRange => exact fun i h => Match.value?_of_notMem fits_number (ho h)
  case notNamed =>
    intro s h
    rw [← Fields.labelled_keys (v := v) hn] at h
    exact Match.value?_of_notMem fits_string h
  case indexArms =>
    intro j h
    have hs : (fields.indexed v).length = fields.declared.length := by
      simp [Fields.indexed, Fields.length_members]
    rw [Fields.matchIndex, Match.length_arms_ofKeys, hs] at h
    by_cases hj : j < fields.declared.length
    case pos => exact Match.position?_entry fits_number hi (Fields.getElem?_indexed hn hj)
    case neg =>
      have he : j = (fields.indexed v).length := by omega
      exact (Match.position?_of_notMem fits_number (ho (Nat.le_of_not_lt hj))).trans (he ▸ rfl)
  case nameArms =>
    have ⟨s, hs⟩ := fields.exists_undeclared
    rw [← Fields.labelled_keys (v := v) hn] at hs
    exact fun j h => Match.exists_position?_eq fits_string hl hs h
  case length => simp [Fields.enumeration, Fields.labelled, Fields.length_members]
  case count => simp [Fields.enumeration, Fields.labelled]
  case result => rfl

theorem Match.ofTokens?_byIndex (fields : Fields) (v : Value) (owner : String) :
    ofTokens? ((Method.of owner fields.members .byIndex).body v) =
      some (fields.matchIndex v owner) := by
  have := ofTokens?_lookupBody Token.number (fun _ => rfl) "index" (Method.outOfRange owner)
    (fields.members.map fun m => (m.position, m.access)) v
  simpa [Method.of, Method.body, Fields.matchIndex, Fields.indexed, Function.comp_def] using this

theorem Match.ofTokens?_byName (fields : Fields) (v : Value) (owner : String) :
    ofTokens? ((Method.of owner fields.members .byName).body v) =
      some (fields.matchName v owner) := by
  have := ofTokens?_lookupBody Token.string (fun _ => rfl) "name" (Method.notNamed owner)
    (fields.members.map fun m => (m.name, m.access)) v
  simpa [Method.of, Method.body, Fields.matchName, Fields.labelled, Function.comp_def] using this

theorem Enumeration.ofTokens?_enumerate (fields : Fields) (v : Value) (owner : String) :
    ofTokens? ((Method.of owner fields.members .enumerate).body v) =
      some (fields.enumeration v) := by
  have := ofTokens?_enumerateBody fields.members.length
    (fields.members.map fun m => (m.name, m.access)) v
  simpa [Method.of, Method.body, Fields.enumeration, Fields.labelled, Function.comp_def] using this

namespace Declaration

def value (d : Declaration) (fields : Fields) : Value :=
  .of fields.members d.generics

def signature (d : Declaration) (fields : Fields) (c : Capability) : List Token :=
  (Method.of d.name.name fields.members c).head (d.value fields)

def accessor (d : Declaration) (fields : Fields) (c : Capability) : List Token :=
  (Method.of d.name.name fields.members c).body (d.value fields)

end Declaration

def rawFields : Fields :=
  .named ⟨[
    (⟨"x", false, .unlocated⟩, ⟨[], [], [.token (.word "u8")]⟩),
    (⟨"type", true, .unlocated⟩, ⟨[], [], [.token (.word "u16")]⟩)], false⟩

-- `struct Point { x: u8, r#type: u16 }`
def rawStruct : Declaration where
  attributes := []
  visibility := []
  name := ⟨"Point", false, .unlocated⟩
  generics := .none
  clause := []
  shape := .struct rawFields

end Accessors
