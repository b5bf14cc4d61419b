import Accessors.Proofs.Listing
import Accessors.Proofs.Reordering

namespace Accessors

namespace Registry

variable {r s : Registry} {a : Attribute} {as : List Attribute} {name : Ident}
variable {t u : Capabilities} {c d : Capability}

theorem capabilityOf_of_name? {p : Path} (h : p.name? = some name) :
    r.capabilityOf p = r.lookup name.text := by
  rw [Path.name?] at h
  split at h
  case h_1 i hg hs =>
    cases h
    rw [capabilityOf, hs, hg]
    rfl
  case h_2 => contradiction

theorem capabilityOf_eq_of_name?_eq_none {p : Path} (h : p.name? = none) :
    r.capabilityOf p = s.capabilityOf p := by
  rw [Path.name?] at h
  rw [capabilityOf, capabilityOf]
  split
  case h_1 i hs =>
    cases hg : p.global
    case true => rfl
    case false => simp [hs, hg] at h
  case h_2 => rfl
  case h_3 => rfl

theorem resolve_of_not_list (h : isListMarker a.path = false) :
    r.resolve a = .ok (.ofList (r.capabilityOf a.path).toList) := by
  rw [resolve, h, if_neg Bool.false_ne_true]
  cases r.capabilityOf a.path <;> rfl

theorem resolve_of_qualified {library : Ident} (hp : a.path.segments = [library, name])
    (hl : library.text = libraryName) :
    r.resolve a = .ok (.ofList (Capability.ofMarker? name.text).toList) := by
  have hn : isListMarker a.path = false := by
    rw [isListMarker, Path.name?, hp]
    cases a.path.global <;> rfl
  rw [resolve_of_not_list hn, capabilityOf, hp]
  simp only [hl, if_true]

theorem Means.unique {entry : List Token} (hc : r.Means entry c) (hd : r.Means entry d) : c = d := by
  obtain ⟨name, rfl, hc⟩ := hc
  rw [means_name, hc] at hd
  exact Option.some.inj hd

theorem Means.of_extends {entry : List Token} (h : r.Extends s) (hc : r.Means entry c) :
    s.Means entry c := by
  obtain ⟨name, rfl, hc⟩ := hc
  exact ⟨name, rfl, h name.text c hc⟩

theorem resolve_list_of_extends (h : r.Extends s) (hl : isListMarker a.path = true)
    (hr : r.resolve a = .ok t) : s.resolve a = .ok t := by
  obtain ⟨entries, he, hm, hc⟩ := (resolve_list_eq_ok_iff hl).mp hr
  refine (resolve_list_eq_ok_iff hl).mpr ⟨entries, he, fun e hi => ?_, fun c => ?_⟩
  · obtain ⟨c, hc⟩ := hm e hi
    exact ⟨c, hc.of_extends h⟩
  · rw [hc c]
    refine exists_congr fun e => and_congr_right fun hi => ⟨.of_extends h, fun hs => ?_⟩
    obtain ⟨d, hd⟩ := hm e hi
    rwa [hs.unique (hd.of_extends h)]

theorem resolve_of_extends (h : r.Extends s) (hr : r.resolve a = .ok t) :
    s.resolve a = .ok t ∨ t = .empty ∧ s.IsRead a ∧
      ∃ name, a.path.name? = some name ∧ r.lookup name.text = none ∧ s.lookup name.text ≠ none := by
  cases hl : isListMarker a.path
  case true => exact .inl (resolve_list_of_extends h hl hr)
  case false =>
    rw [resolve_of_not_list hl] at hr ⊢
    cases hc : r.capabilityOf a.path
    case some c =>
      rw [hc] at hr
      exact .inl (capabilityOf_of_extends h hc ▸ hr)
    case none =>
      rw [hc] at hr
      cases hn : a.path.name?
      case none => exact .inl (capabilityOf_eq_of_name?_eq_none hn ▸ hc ▸ hr)
      case some name =>
        rw [capabilityOf_of_name? hn] at hc ⊢
        cases hs : s.lookup name.text
        case none => exact .inl hr
        case some c =>
          have ht : Capabilities.empty = t := Except.ok.inj hr
          exact .inr ⟨ht.symm, ⟨_, resolve_of_not_list hl⟩, name, rfl, hc, by simp [hs]⟩

theorem IsRead.of_extends (h : r.Extends s) (ha : r.IsRead a) : s.IsRead a := by
  obtain ⟨t, ht⟩ := ha
  rcases resolve_of_extends h ht with hs | ⟨_, hs, _⟩
  · exact ⟨t, hs⟩
  · exact hs

theorem AsksFor.of_extends (h : r.Extends s) (ha : r.AsksFor a c) : s.AsksFor a c := by
  obtain ⟨t, ht, hc⟩ := ha
  rcases resolve_of_extends h ht with hs | ⟨rfl, _⟩
  · exact ⟨t, hs, hc⟩
  · rw [Capabilities.contains_empty] at hc
    contradiction

theorem AsksFor.of_extension (h : r.Extends s) (hr : r.IsRead a)
    (hn : ∀ name, a.path.name? = some name → r.lookup name.text = none → s.lookup name.text = none)
    (ha : s.AsksFor a c) : r.AsksFor a c := by
  obtain ⟨t, ht⟩ := hr
  rcases resolve_of_extends h ht with hs | ⟨_, _, name, hp, hr, hs⟩
  · exact (asksFor_iff ht).mpr ((asksFor_iff hs).mp ha)
  · exact absurd (hn name hp hr) hs

theorem classify_of_extends (h : r.Extends s) (hr : r.classify as = .ok t) :
    ∃ u, s.classify as = .ok u ∧ (∀ c, t.contains c = true → u.contains c = true) ∧
      ((∀ a ∈ as, ∀ name, a.path.name? = some name →
        r.lookup name.text = none → s.lookup name.text = none) → u = t) := by
  obtain ⟨hi, ht⟩ := classify_eq_ok_iff.mp hr
  obtain ⟨u, hu⟩ := exists_classify_iff.mpr fun a ha => (hi a ha).of_extends h
  have hc := contains_classify hu
  have hm (c : Capability) : t.contains c = true → u.contains c = true := by
    rw [ht, hc]
    rintro ⟨a, ha, h'⟩
    exact ⟨a, ha, h'.of_extends h⟩
  refine ⟨u, hu, hm, fun hn => Capabilities.eq_of_contains_iff fun c => ⟨fun h' => ?_, hm c⟩⟩
  rw [hc] at h'
  obtain ⟨a, ha, h'⟩ := h'
  exact (ht c).mpr ⟨a, ha, h'.of_extension h (hi a ha) (hn a ha)⟩

-- Further calls to add aliases, some of which may fail, take nothing away: what is a marker remains
-- one, and attributes that are read are read as before, but that they may ask for more. They do so
-- only through bare names that have become known, and never through qualified ones, which mean the
-- same to all registries.
theorem aliases_only_add (r : Registry) (more : List Alias) :
    (∀ a, r.isMarker a = true → (r.after more).isMarker a = true) ∧
    (∀ as t, r.classify as = .ok t → ∃ u, (r.after more).classify as = .ok u ∧
      (∀ c, t.contains c = true → u.contains c = true) ∧
      ((∀ a ∈ as, ∀ name, a.path.name? = some name →
        r.lookup name.text = none → (r.after more).lookup name.text = none) → u = t)) ∧
    ∀ (a : Attribute) (library name : Ident), a.path.segments = [library, name] →
      library.text = libraryName → ∀ s : Registry,
        s.resolve a = .ok (.ofList (Capability.ofMarker? name.text).toList) := by
  have h := r.extends_after more
  exact ⟨fun a => isMarker_of_extends h, fun as t => classify_of_extends h,
    fun a library name hp hl s => resolve_of_qualified hp hl⟩

end Registry

-- `markers(nth = by_index)`
def nthRegistry : Registry :=
  Registry.canonical.after [nthAlias]

-- The second of these calls fails, as the name is taken.
def furtherAliases : List Alias :=
  [eachAlias, ⟨plainIdent "nth", plainIdent "by_name"⟩]

-- `#[member_access::by_index]`
def qualifiedMarker : Attribute :=
  ⟨false, .unlocated, .unlocated, .unlocated,
    ⟨false, [plainIdent libraryName, plainIdent "by_index"]⟩, .absent⟩

-- `#[nth] #[member_access(by_name)]` beside `#[nth] #[member_access(by_name)] #[each]`
theorem further_aliases_add_one :
    let as := [plainMarker "nth", listedMarker "by_name"]
    let bs := as ++ [plainMarker "each"]
    (nthRegistry.isMarker (plainMarker "nth") = true ∧
      (nthRegistry.after furtherAliases).isMarker (plainMarker "nth") = true) ∧
    nthRegistry.classify as = .ok (.ofList [.byIndex, .byName]) ∧
    (nthRegistry.after furtherAliases).classify as = .ok (.ofList [.byIndex, .byName]) ∧
    nthRegistry.classify bs = .ok (.ofList [.byIndex, .byName]) ∧
    (∃ u, (nthRegistry.after furtherAliases).classify bs = .ok u ∧ u.contains .byIndex = true ∧
      u.contains .enumerate = true) ∧
    nthRegistry.resolve qualifiedMarker = .ok (.ofList [.byIndex]) := by
  intro as bs
  obtain ⟨hm, hc, hq⟩ := nthRegistry.aliases_only_add furtherAliases
  have hi : nthRegistry.isMarker (plainMarker "nth") = true := rfl
  have ha : nthRegistry.classify as = .ok (.ofList [.byIndex, .byName]) := rfl
  have hb : nthRegistry.classify bs = .ok (.ofList [.byIndex, .byName]) := rfl
  obtain ⟨u, hu, _, hn⟩ := hc as _ ha
  obtain ⟨v, hv, hs, _⟩ := hc bs _ hb
  have known : ∀ a ∈ as, ∀ name, a.path.name? = some name → nthRegistry.lookup name.text = none →
      (nthRegistry.after furtherAliases).lookup name.text = none := by
    refine List.forall_mem_cons.mpr ⟨?_, List.forall_mem_singleton.mpr ?_⟩
    · rintro _ ⟨⟩ ⟨⟩
    · rintro _ ⟨⟩ _
      rfl
  have he : v.contains .enumerate = true := by
    cases hv
    rfl
  exact ⟨⟨hi, hm _ hi⟩, ha, hn known ▸ hu, hb, ⟨v, hv, hs _ rfl, he⟩,
    hq qualifiedMarker _ _ rfl rfl nthRegistry⟩

end Accessors
