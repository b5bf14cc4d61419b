import Accessors.Proofs.Markers

namespace Accessors

open List

namespace Registry

variable {r : Registry} {a : Attribute} {as bs : List Attribute} {s : Capabilities} {fault : Fault}

theorem isListMarker_of_resolve (h : r.resolve a = .error fault) : isListMarker a.path = true := by
  rw [resolve] at h
  split at h
  case isTrue hl => exact hl
  case isFalse => cases hc : r.capabilityOf a.path <;> simp [hc] at h

def IsRead (r : Registry) (a : Attribute) : Prop :=
  ∃ s, r.resolve a = .ok s

def AsksFor (r : Registry) (a : Attribute) (c : Capability) : Prop :=
  ∃ s, r.resolve a = .ok s ∧ s.contains c = true

theorem not_isRead (h : r.resolve a = .error fault) : ¬r.IsRead a := by
  rintro ⟨s, hs⟩
  exact absurd (h.symm.trans hs) nofun

theorem asksFor_iff (h : r.resolve a = .ok s) {c : Capability} :
    r.AsksFor a c ↔ s.contains c = true := by
  simp [AsksFor, h]

theorem exists_classify_iff : (∃ s, r.classify as = .ok s) ↔ ∀ a ∈ as, r.IsRead a := by
  induction as
  case nil => simp [classify]
  case cons a as ih =>
    rw [forall_mem_cons, ← ih, classify_cons, IsRead]
    cases r.resolve a <;> cases r.classify as <;> simp

theorem contains_classify (h : r.classify as = .ok s) (c : Capability) :
    s.contains c = true ↔ ∃ a ∈ as, r.AsksFor a c := by
  induction as generalizing s
  case nil =>
    cases h
    simp [Capabilities.contains_empty]
  case cons a as ih =>
    rw [classify_cons] at h
    split at h
    case h_1 => contradiction
    case h_2 => contradiction
    case h_3 t u ht hu =>
      cases h
      simp [Capabilities.contains_union, ih hu, asksFor_iff ht]

theorem classify_eq_ok_iff : r.classify as = .ok s ↔
    (∀ a ∈ as, r.IsRead a) ∧ ∀ c, s.contains c = true ↔ ∃ a ∈ as, r.AsksFor a c := by
  constructor
  case mp =>
    intro h
    exact ⟨exists_classify_iff.mp ⟨s, h⟩, contains_classify h⟩
  case mpr =>
    rintro ⟨hr, hc⟩
    obtain ⟨t, ht⟩ := exists_classify_iff.mpr hr
    rw [ht, Capabilities.eq_of_contains_iff fun c => (contains_classify ht c).trans (hc c).symm]

theorem foldlM_union (s : Capabilities) :
    as.foldlM (fun s a => s.union <$> r.resolve a) s = s.union <$> r.classify as := by
  induction as generalizing s
  case nil => exact congrArg Except.ok s.union_empty.symm
  case cons a as ih =>
    rw [foldlM_cons, classify_cons]
    cases r.resolve a
    case error => rfl
    case ok t =>
      have h := ih (s.union t)
      cases hc : r.classify as
      all_goals
        rw [hc] at h
        refine h.trans ?_
      case error => rfl
      case ok u => exact congrArg Except.ok (s.union_assoc t u)

theorem classify_eq_error_iff : r.classify as = .error fault ↔
    ∃ before a after, as = before ++ a :: after ∧ (∀ b ∈ before, r.IsRead b) ∧
      r.resolve a = .error fault := by
  have he (x : Except Fault Capabilities) (s : Capabilities) :
      s.union <$> x = .error fault ↔ x = .error fault := by
    cases x <;> simp [Functor.map, Except.map]
  have ho (x : Except Fault Capabilities) (s : Capabilities) :
      (∃ t, s.union <$> x = .ok t) ↔ ∃ t, x = .ok t := by
    cases x <;> simp [Functor.map, Except.map]
  rw [← he (r.classify as) .empty, ← foldlM_union, Entries.foldlM_eq_error_iff]
  simp only [he, foldlM_union, exists_and_left, exists_and_right, ho, exists_classify_iff]

-- One list of attributes is another one in another order, with some attributes repeated, and with
-- others among them that are no markers.
inductive Reworks (r : Registry) : List Attribute → List Attribute → Prop
  | permuted {as bs : List Attribute} (h : as ~ bs) : Reworks r as bs
  | repeated (before after : List Attribute) (a : Attribute) :
    Reworks r (before ++ a :: after) (before ++ a :: a :: after)
  | inserted (before after : List Attribute) (a : Attribute) (h : r.isMarker a = false) :
    Reworks r (before ++ after) (before ++ a :: after)
  | trans {as bs cs : List Attribute} (h₁ : Reworks r as bs) (h₂ : Reworks r bs cs) :
    Reworks r as cs

theorem Reworks.mem_iff (h : r.Reworks as bs) (ha : r.isMarker a = true) : a ∈ as ↔ a ∈ bs := by
  induction h
  case permuted h => exact h.mem_iff
  case repeated => simp
  case inserted before after b hb =>
    have hn : a ≠ b := by
      rintro rfl
      rw [ha] at hb
      contradiction
    simp [hn]
  case trans ih₁ ih₂ => exact ih₁.trans ih₂

theorem forall_isRead_iff :
    (∀ a ∈ as, r.IsRead a) ↔ ∀ a ∈ as, r.isMarker a = true → r.IsRead a := by
  refine ⟨fun h a ha _ => h a ha, fun h a ha => ?_⟩
  cases hm : r.isMarker a
  case false => exact ⟨.empty, resolve_of_not_isMarker hm⟩
  case true => exact h a ha hm

theorem isMarker_of_asksFor {c : Capability} (h : r.AsksFor a c) : r.isMarker a = true := by
  rw [← Bool.not_eq_false]
  intro hm
  rw [asksFor_iff (resolve_of_not_isMarker hm), Capabilities.contains_empty] at h
  contradiction

theorem Reworks.classify_iff (h : r.Reworks as bs) :
    r.classify as = .ok s ↔ r.classify bs = .ok s := by
  have hr : (∀ a ∈ as, r.IsRead a) ↔ ∀ a ∈ bs, r.IsRead a := by
    rw [forall_isRead_iff, forall_isRead_iff]
    refine forall_congr' fun a => ?_
    constructor
    case mp => exact fun ha hb hm => ha ((h.mem_iff hm).mpr hb) hm
    case mpr => exact fun ha hb hm => ha ((h.mem_iff hm).mp hb) hm
  have hc (c : Capability) : (∃ a ∈ as, r.AsksFor a c) ↔ ∃ a ∈ bs, r.AsksFor a c :=
    exists_congr fun a => and_congr_left fun ha => h.mem_iff (isMarker_of_asksFor ha)
  simp only [classify_eq_ok_iff, hr, hc]

theorem classify_is_union (r : Registry) (as : List Attribute) :
    (∀ fault, r.classify as = .error fault ↔
      ∃ before a after, as = before ++ a :: after ∧ (∀ b ∈ before, r.IsRead b) ∧
        isListMarker a.path = true ∧ r.resolve a = .error fault) ∧
    (∀ s, r.classify as = .ok s ↔
      (∀ a ∈ as, r.IsRead a) ∧ ∀ c, s.contains c = true ↔ ∃ a ∈ as, r.AsksFor a c) ∧
    ∀ bs, r.Reworks as bs → ∀ s, r.classify as = .ok s ↔ r.classify bs = .ok s := by
  refine ⟨fun fault => ?_, fun s => classify_eq_ok_iff, fun bs h s => h.classify_iff⟩
  rw [classify_eq_error_iff]
  have hl (a : Attribute) : isListMarker a.path = true ∧ r.resolve a = .error fault ↔
      r.resolve a = .error fault := and_iff_right_of_imp isListMarker_of_resolve
  simp only [hl]

end Registry

-- `#[by_index] #[member_access(by_name)]` beside `#[member_access(by_name)] #[doc] #[by_index]
-- #[by_index]`
theorem mixed_markers_reworked :
    let as := [plainMarker "by_index", listedMarker "by_name"]
    let bs := [listedMarker "by_name", plainMarker "doc", plainMarker "by_index",
      plainMarker "by_index"]
    Registry.canonical.Reworks as bs ∧
      Registry.canonical.classify as = .ok (.ofList [.byIndex, .byName]) ∧
      Registry.canonical.classify bs = .ok (.ofList [.byIndex, .byName]) := by
  intro as bs
  have hr : Registry.canonical.Reworks as bs :=
    .trans (.repeated [] _ _) <| .trans (.permuted (@perm_append_comm _ [_, _] _)) <|
      .inserted [_] _ _ rfl
  have ha : Registry.canonical.classify as = .ok (.ofList [.byIndex, .byName]) := rfl
  have ⟨_, _, h⟩ := Registry.canonical.classify_is_union as
  exact ⟨hr, ha, (h bs hr _).mp ha⟩

end Accessors
