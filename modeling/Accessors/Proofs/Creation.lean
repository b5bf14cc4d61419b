import Accessors.Proofs.Directories

namespace Accessors

open List

namespace Disk

variable {d e : Disk} {l : Location} {start place ns more : List String} {n : String}

-- Along these names there are directories on the second disk, some of which the first one lacks.
inductive Opens : Disk → List String → List String → Disk → List String → Prop
  | nil {d : Disk} {start : List String} : Opens d start [] d start
  | back {d e : Disk} {start place ns : List String} (h : Opens d start.dropLast ns e place) :
    Opens d start (".." :: ns) e place
  | there {d e : Disk} {start place ns : List String} {n : String} (hn : n ≠ "..")
    (hs : n.utf8ByteSize ≤ maxName) (hg : d.get? (start ++ [n]) = some .directory)
    (h : Opens d (start ++ [n]) ns e place) : Opens d start (n :: ns) e place
  | made {d e : Disk} {start place ns : List String} {n : String} (hn : n ≠ "..")
    (hs : n.utf8ByteSize ≤ maxName) (hg : d.get? (start ++ [n]) = none)
    (h : Opens (d.put (start ++ [n]) .directory) (start ++ [n]) ns e place) :
    Opens d start (n :: ns) e place

theorem keeps_put_of_none (h : d.get? ns = none) (x : Entry) : d.Keeps (d.put ns x) := by
  refine keeps_put ?_ x fun hd => by simp [hd] at h
  rintro rfl
  contradiction

namespace Opens

theorem of_follow (h : d.follow start ns = .ok place) : Opens d start ns d place := by
  induction ns generalizing start
  case nil =>
    cases h
    exact .nil
  case cons n ns ih =>
    rcases follow_cons_iff.mp h with ⟨rfl, h⟩ | ⟨hn, hs, hg, h⟩
    case inl => exact .back (ih h)
    case inr => exact .there hn hs hg (ih h)

theorem append {f : Disk} {last : List String} (h : Opens d start ns e place)
    (h' : Opens e place more f last) : Opens d start (ns ++ more) f last := by
  induction h
  case nil => exact h'
  case back ih => exact .back (ih h')
  case there hn hs hg _ ih => exact .there hn hs hg (ih h')
  case made hn hs hg _ ih => exact .made hn hs hg (ih h')

theorem of_append (h : Opens d start (ns ++ more) e place) :
    ∃ mid between, Opens d start ns mid between ∧ Opens mid between more e place := by
  induction ns generalizing d start
  case nil => exact ⟨d, start, .nil, h⟩
  case cons n ns ih =>
    rcases h with _ | h | ⟨hn, hs, hg, h⟩ | ⟨hn, hs, hg, h⟩
    all_goals obtain ⟨mid, between, h, hm⟩ := ih h
    case back => exact ⟨mid, between, .back h, hm⟩
    case there => exact ⟨mid, between, .there hn hs hg h, hm⟩
    case made => exact ⟨mid, between, .made hn hs hg h, hm⟩

theorem keeps (h : Opens d start ns e place) : d.Keeps e := by
  induction h
  case nil => exact fun _ h => h
  case back ih => exact ih
  case there ih => exact ih
  case made hg _ ih => exact fun names h => ih names (keeps_put_of_none hg _ names h)

theorem follow (h : Opens d start ns e place) : e.follow start ns = .ok place := by
  induction h
  case nil => rfl
  case back ih => exact follow_cons_iff.mpr (.inl ⟨rfl, ih⟩)
  case there hn hs hg h ih => exact follow_cons_iff.mpr (.inr ⟨hn, hs, h.keeps _ hg, ih⟩)
  case made d _ start _ _ n hn hs _ h ih =>
    have hp := h.keeps _ (get?_put_self d (by simp) _)
    exact follow_cons_iff.mpr (.inr ⟨hn, hs, hp, ih⟩)

theorem follow_before (h : Opens d start ns e place) :
    d = e ∧ d.follow start ns = .ok place ∨ d.follow start ns = .error .missing := by
  induction h
  case nil => exact .inl ⟨rfl, rfl⟩
  case back ih => rwa [Disk.follow, if_pos rfl]
  case there hn hs hg _ ih => rwa [Disk.follow, if_neg hn, if_neg (Nat.not_lt_of_le hs), hg]
  case made hn hs hg _ _ =>
    rw [Disk.follow, if_neg hn, if_neg (Nat.not_lt_of_le hs), hg]
    exact .inr rfl

theorem eq_of_follow {last : List String} (h : Opens d start ns e place)
    (hf : d.follow start ns = .ok last) : d = e ∧ last = place := by
  rcases h.follow_before with ⟨he, h⟩ | h
  case inl => exact ⟨he, Except.ok.inj (hf.symm.trans h)⟩
  case inr => rw [h] at hf; contradiction

theorem extend {mid : Disk} {between : List String} (h : Opens d start ns mid between)
    (hp : ns <+: more) (h' : Opens mid start more e place) : Opens d start more e place := by
  obtain ⟨_, rfl⟩ := hp
  obtain ⟨_, _, hn, hm⟩ := h'.of_append
  obtain ⟨rfl, rfl⟩ := hn.eq_of_follow h.follow
  exact h.append hm

theorem of_empty (h : Opens d start (Location.names "") e place) : e = d := by
  have hn : Location.names "" = [] := by decide
  rw [hn] at h
  cases h
  rfl

theorem of_singleton (h : Opens d start [n] e place) (hn : n ≠ "..") :
    d.get? (start ++ [n]) = some .directory ∧ d = e ∨
      d.get? (start ++ [n]) = none ∧ e = d.put (start ++ [n]) .directory := by
  cases h
  case back => contradiction
  case there hg h =>
    cases h
    exact .inl ⟨hg, rfl⟩
  case made hg h =>
    cases h
    exact .inr ⟨hg, rfl⟩

theorem get?_of_notPrefix (h : Opens d start ns e place) (hb : ".." ∉ ns) :
    place = start ++ ns ∧ ∀ names, ¬names <+: place → e.get? names = d.get? names := by
  induction h
  case nil => exact ⟨(append_nil _).symm, fun _ _ => rfl⟩
  case back => simp at hb
  case there ih =>
    have ⟨hp, hg⟩ := ih (not_mem_of_not_mem_cons hb)
    exact ⟨by rw [hp, append_assoc, singleton_append], hg⟩
  case made d _ start _ _ n _ _ _ _ ih =>
    have ⟨hp, hg⟩ := ih (not_mem_of_not_mem_cons hb)
    refine ⟨by rw [hp, append_assoc, singleton_append], fun names hn => ?_⟩
    rw [hg names hn, get?_put d (by simp), if_neg]
    rintro rfl
    exact hn (hp ▸ prefix_append _ _)

end Opens

structure Fits (l : Location) : Prop where
  nul : '\x00' ∉ l.toList
  size : l.utf8ByteSize ≤ maxLocation
  names (n : String) (h : n ∈ l.names) : n.utf8ByteSize ≤ maxName

instance (l : Location) : Decidable (Fits l) :=
  decidable_of_iff ('\x00' ∉ l.toList ∧ l.utf8ByteSize ≤ maxLocation ∧
      ∀ n ∈ l.names, n.utf8ByteSize ≤ maxName)
    ⟨fun ⟨hn, hs, hl⟩ => ⟨hn, hs, hl⟩, fun ⟨hn, hs, hl⟩ => ⟨hn, hs, hl⟩⟩

theorem Fits.refusal? (h : Fits l) (he : l ≠ "") : refusal? l = none := by
  have hn : l.toList.contains '\x00' = false := by simpa using h.nul
  rw [Disk.refusal?, hn, if_neg (by simp), if_neg (by simpa using he),
    if_neg (Nat.not_lt_of_le h.size)]

theorem Fits.of_parent? {p : Location} (h : Fits l) (hp : l.parent? = some p) : Fits p where
  nul hn := h.nul ((Location.parent?_prefix hp).subset hn)
  size := by
    obtain ⟨rest, hr⟩ := Location.parent?_prefix hp
    have hl : l = p ++ String.ofList rest := by
      rw [← String.toList_inj, String.toList_append, String.toList_ofList, hr]
    have hs := h.size
    rw [hl, String.utf8ByteSize_append] at hs
    omega
  names n hn := h.names n ((dropLast_sublist _).subset (Location.names_parent? hp ▸ hn))

theorem climb_empty (d : Disk) (rounds : Nat) :
    makeDirectories.climb d rounds "" = (d, none) := by
  cases rounds <;> rfl

theorem climb_of_ne_missing {rounds : Nat} (h : d.makeDirectory l ≠ .error .missing) :
    makeDirectories.climb d (rounds + 1) l = d.ensureDirectory l := by
  rw [makeDirectories.climb, ensureDirectory]
  split
  case isTrue he =>
    obtain rfl := String.isEmpty_iff.mp he
    exact absurd rfl h
  case isFalse =>
    split
    case h_1 h => rw [h]
    case h_2 hm => exact absurd hm h
    case h_3 h => rw [h]

theorem names_of_isDotted (h : isDotted l = true) (he : l.endsWith "/." = false) :
    l.names = [] ∨ ∃ ns, l.names = ns ++ [".."] := by
  simp only [isDotted, he, Bool.false_or, Bool.or_eq_true, beq_iff_eq,
    List.isEmpty_iff] at h
  rcases h with (rfl | h) | h
  case inl.inl => exact .inl (by decide)
  case inl.inr => exact .inr (getLast?_eq_some_iff.mp h)
  case inr => exact .inl h

section Parents

variable (hf : Fits l) (he : l ≠ "") (hd : l.endsWith "/." = false)

include hf he hd

theorem ensureDirectory_of_opens (hp : d.follow [] l.names.dropLast = .ok start)
    (h : Opens d [] l.names e place) :
    d.makeDirectory l ≠ .error .missing ∧ d.ensureDirectory l = (e, none) := by
  have hr := hf.refusal? he
  cases hi : isDotted l
  case true =>
    obtain ⟨last, hn⟩ : ∃ last, d.follow [] l.names = .ok last := by
      rcases names_of_isDotted hi hd with hn | ⟨ns, hn⟩
      case inl => exact ⟨[], by rw [hn]; rfl⟩
      case inr =>
        rw [hn, dropLast_concat] at hp
        exact ⟨start.dropLast, by rw [hn, follow_append, hp]; rfl⟩
    have hl := locate_eq_ok_iff.mpr (.directory hr hi hn)
    have hm : d.makeDirectory l = .error .occupied := by rw [makeDirectory, hl]; rfl
    have ht : d.leadsToDirectory l = true := by rw [leadsToDirectory, hl]
    rw [ensureDirectory, hm, ht, ← (h.eq_of_follow hn).1]
    exact ⟨by simp, rfl⟩
  case false =>
    obtain ⟨ns, n, hn, hb⟩ := exists_concat_of_isDotted hi
    have hs := hf.names n (hn ▸ mem_concat_self)
    rw [hn, dropLast_concat] at hp
    rw [hn] at h
    obtain ⟨_, _, hm, hk⟩ := h.of_append
    obtain ⟨rfl, rfl⟩ := hm.eq_of_follow hp
    have hl := locate_eq_ok_iff.mpr (.entry hr hi hn hs hp)
    rcases hk.of_singleton hb with ⟨hg, rfl⟩ | ⟨hg, rfl⟩
    case inl =>
      have hm : d.makeDirectory l = .error .occupied := by
        simp only [makeDirectory, hl, bind, Except.bind, hg]
      have ht : d.leadsToDirectory l = true := by simp [leadsToDirectory, hl, isDirectory, hg]
      rw [ensureDirectory, hm, ht]
      exact ⟨by simp, rfl⟩
    case inr =>
      have hm : d.makeDirectory l = .ok (d.put (start ++ [n]) .directory) := by
        simp only [makeDirectory, hl, bind, Except.bind, hg]
      rw [ensureDirectory, hm]
      exact ⟨by simp, rfl⟩

theorem makeDirectory_of_missing (hp : d.follow [] l.names.dropLast = .error .missing) :
    d.makeDirectory l = .error .missing := by
  have hl : d.locate l = .error .missing := by
    rw [locate_eq, hf.refusal? he]
    cases hi : isDotted l
    case true =>
      rcases names_of_isDotted hi hd with hn | ⟨ns, hn⟩
      case inl =>
        rw [hn] at hp
        contradiction
      case inr =>
        rw [hn, dropLast_concat] at hp
        simp only [hn, follow_append, hp]
        rfl
    case false =>
      simp only [hp]
      rfl
  rw [makeDirectory, hl]
  rfl

end Parents

theorem climb_of_opens {rounds : Nat} (hl : l.length ≤ rounds) (hf : Fits l)
    (hd : l.endsWith "/." = false) (h : Opens d [] l.names e place) :
    makeDirectories.climb d rounds l = (e, none) := by
  induction rounds generalizing l e place
  case zero =>
    obtain rfl : l = "" := String.length_eq_zero_iff.mp (Nat.le_zero.mp hl)
    rw [climb_empty, h.of_empty]
  case succ rounds ih =>
    by_cases he : l = ""
    case pos =>
      subst he
      rw [climb_empty, h.of_empty]
    case neg =>
      have ⟨more, hm⟩ := dropLast_prefix l.names
      obtain ⟨mid, between, hb, hk⟩ := (hm ▸ h).of_append
      rcases hb.follow_before with ⟨rfl, hp⟩ | hp
      case inl =>
        have ⟨hn, hs⟩ := ensureDirectory_of_opens hf he hd hp h
        rw [climb_of_ne_missing hn, hs]
      case inr =>
        have hn : l.names ≠ [] := by
          intro hn
          rw [hn] at hp
          contradiction
        obtain ⟨p, hq⟩ := Location.exists_parent? hn
        have hlt := Location.length_parent?_lt hq
        have hc := ih (by omega) (hf.of_parent? hq) (Location.endsWith_parent? hq)
          (Location.names_parent? hq ▸ hb)
        have hk := (Opens.of_follow hb.follow).append hk
        have hs := (ensureDirectory_of_opens hf he hd hb.follow (hm ▸ hk)).2
        rw [makeDirectories.climb, if_neg (by simpa using he),
          makeDirectory_of_missing hf he hd hp]
        simp only [hq, hc, hs]

theorem makeDirectories_of_opens (hf : Fits l) (hd : l.endsWith "/." = false)
    (h : Opens d [] l.names e place) : d.makeDirectories l = (e, none) :=
  climb_of_opens Nat.le.refl hf hd h

theorem opens_of_ensureDirectory (h : d.ensureDirectory l = (e, none)) :
    ∃ place, Opens d [] l.names e place := by
  rw [ensureDirectory] at h
  split at h
  case h_1 hm =>
    obtain ⟨rfl, -⟩ := Prod.mk.inj h
    obtain ⟨place, n, hl, hg, rfl⟩ := of_makeDirectory hm
    obtain _ | ⟨-, hd, hn, hs, hf⟩ := hl
    obtain ⟨_, _, hn', hb⟩ := exists_concat_of_isDotted hd
    obtain ⟨rfl, rfl⟩ := append_singleton_inj.mp (hn.symm.trans hn')
    exact ⟨_, hn ▸ (Opens.of_follow hf).append (.made hb hs hg .nil)⟩
  case h_2 =>
    obtain ⟨rfl, h⟩ := Prod.mk.inj h
    cases hl : d.leadsToDirectory l
    case false => simp [hl] at h
    case true =>
      obtain ⟨place, hf⟩ := follow_of_leadsToDirectory hl
      exact ⟨place, .of_follow hf⟩

theorem opens_of_climb {rounds : Nat} (hl : l.length ≤ rounds)
    (h : makeDirectories.climb d rounds l = (e, none)) : ∃ place, Opens d [] l.names e place := by
  induction rounds generalizing l e
  case zero =>
    obtain rfl : l = "" := String.length_eq_zero_iff.mp (Nat.le_zero.mp hl)
    rw [climb_empty] at h
    obtain ⟨rfl, -⟩ := Prod.mk.inj h
    exact ⟨[], .nil⟩
  case succ rounds ih =>
    by_cases he : l = ""
    case pos =>
      subst he
      rw [climb_empty] at h
      obtain ⟨rfl, -⟩ := Prod.mk.inj h
      exact ⟨[], .nil⟩
    case neg =>
      by_cases hm : d.makeDirectory l = .error .missing
      case neg =>
        rw [climb_of_ne_missing hm] at h
        exact opens_of_ensureDirectory h
      case pos =>
        rw [makeDirectories.climb, if_neg (by simpa using he), hm] at h
        simp only at h
        split at h
        case h_1 => simp at h
        case h_2 p hp =>
          split at h
          case h_1 => simp at h
          case h_2 hc =>
            have hlt := Location.length_parent?_lt hp
            obtain ⟨_, hb⟩ := ih (by omega) hc
            obtain ⟨place, hs⟩ := opens_of_ensureDirectory h
            rw [Location.names_parent? hp] at hb
            have hn := dropLast_prefix l.names
            exact ⟨place, hb.extend hn hs⟩

theorem opens_of_makeDirectories (h : d.makeDirectories l = (e, none)) :
    ∃ place, Opens d [] l.names e place :=
  opens_of_climb Nat.le.refl h

end Disk

end Accessors
