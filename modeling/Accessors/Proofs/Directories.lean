import Accessors.Disk.Basic
import Accessors.Proofs.Locations

namespace Accessors

open List

namespace Disk

variable {d e : Disk} {l : Location} {start place ns : List String} {n : String}

theorem lookup_filter_ne (entries : List (List String × Entry)) {names other : List String}
    (h : other ≠ names) : (entries.filter (·.1 != names)).lookup other = entries.lookup other := by
  induction entries
  case nil => rfl
  case cons entry entries ih =>
    obtain ⟨key, x⟩ := entry
    by_cases hk : key = names
    case pos => simp [hk, ih, lookup_cons, beq_eq_false_iff_ne.mpr h]
    case neg => simp [hk, ih, lookup_cons]

theorem get?_put (d : Disk) {names : List String} (h : names ≠ []) (x : Entry)
    (other : List String) :
    (d.put names x).get? other = if other = names then some x else d.get? other := by
  by_cases ho : other = names
  case pos => simp [get?, put, ho, h]
  case neg => simp [get?, put, ho, lookup_cons, lookup_filter_ne, beq_eq_false_iff_ne.mpr ho]

theorem get?_put_self (d : Disk) {names : List String} (h : names ≠ []) (x : Entry) :
    (d.put names x).get? names = some x := by
  rw [get?_put d h, if_pos rfl]

def Keeps (d e : Disk) : Prop :=
  ∀ names, d.get? names = some .directory → e.get? names = some .directory

theorem keeps_put (h : ns ≠ []) (x : Entry) (hf : d.get? ns = some .directory → x = .directory) :
    d.Keeps (d.put ns x) := by
  intro other ho
  rw [get?_put d h]
  split
  case isTrue he => rw [hf (he ▸ ho)]
  case isFalse => exact ho

theorem follow_cons_iff : d.follow start (n :: ns) = .ok place ↔
    (n = ".." ∧ d.follow start.dropLast ns = .ok place) ∨
    (n ≠ ".." ∧ n.utf8ByteSize ≤ maxName ∧ d.get? (start ++ [n]) = some .directory ∧
      d.follow (start ++ [n]) ns = .ok place) := by
  rw [follow]
  by_cases hd : n = ".."
  case pos => simp [hd]
  case neg =>
    by_cases hs : maxName < n.utf8ByteSize
    case pos => simp [hd, hs, Nat.not_le_of_lt hs]
    case neg =>
      cases hg : d.get? (start ++ [n])
      case none => simp [hd, hs]
      case some x => cases x <;> simp [hd, hs, Nat.le_of_not_lt hs]

theorem follow_append (d : Disk) (start ns more : List String) :
    d.follow start (ns ++ more) = d.follow start ns >>= fun place => d.follow place more := by
  induction ns generalizing start
  case nil => rfl
  case cons n ns ih =>
    rw [cons_append, follow, follow]
    split
    case isTrue => exact ih _
    case isFalse =>
      split
      case isTrue => rfl
      case isFalse =>
        split
        case h_1 => exact ih _
        case h_2 => rfl
        case h_3 => rfl

theorem follow_append_iff {more : List String} : d.follow start (ns ++ more) = .ok place ↔
    ∃ mid, d.follow start ns = .ok mid ∧ d.follow mid more = .ok place := by
  rw [follow_append]
  cases d.follow start ns
  case error => simp [bind, Except.bind]
  case ok mid => simp [bind, Except.bind]

theorem follow_of_keeps (hk : d.Keeps e) (h : d.follow start ns = .ok place) :
    e.follow start ns = .ok place := by
  induction ns generalizing start
  case nil => exact h
  case cons n ns ih =>
    rw [follow_cons_iff] at h ⊢
    exact h.imp (fun h => ⟨h.1, ih h.2⟩) fun h => ⟨h.1, h.2.1, hk _ h.2.2.1, ih h.2.2.2⟩

-- Locations that are refused, whatever is on the disk.
def refusal? (l : Location) : Option DiskProblem :=
  if l.toList.contains '\x00' then some .nulInName
  else if l.isEmpty then some .missing
  else if maxLocation < l.utf8ByteSize then some .nameTooLong
  else none

-- Locations that lead to a directory, if to anything.
def isDotted (l : Location) : Bool :=
  (l.endsWith "/." || l == "." || l.names.getLast? == some "..") || l.names.isEmpty

theorem locate_eq (d : Disk) (l : Location) : d.locate l =
    match refusal? l with
    | some problem => .error problem
    | none =>
      if isDotted l then (d.follow [] l.names).map fun place => (place, none)
      else (d.follow [] l.names.dropLast).bind fun place =>
        if maxName < (l.names.getLast?.getD "").utf8ByteSize then .error .nameTooLong
        else .ok (place, some (l.names.getLast?.getD "")) := by
  rw [locate, refusal?, isDotted]
  split
  · rfl
  split
  · rfl
  split
  · rfl
  · simp only
    split
    · cases d.follow [] l.names <;> rfl
    · cases d.follow [] l.names.dropLast <;> rfl

theorem exists_concat_of_isDotted (h : isDotted l = false) :
    ∃ ns n, l.names = ns ++ [n] ∧ n ≠ ".." := by
  simp only [isDotted, Bool.or_eq_false_iff, isEmpty_eq_false_iff, beq_eq_false_iff_ne] at h
  obtain ⟨⟨_, hp⟩, he⟩ := h
  obtain ⟨ns, n, hl⟩ := (eq_nil_or_concat l.names).resolve_left he
  rw [concat_eq_append] at hl
  rw [hl, getLast?_concat] at hp
  exact ⟨ns, n, hl, fun hn => hp (congrArg some hn)⟩

-- What a location leads to: a directory, or a name in a directory. What is found under the name is
-- another matter.
inductive Locates (d : Disk) (l : Location) : List String × Option String → Prop
  | directory {place : List String} (hr : refusal? l = none) (hd : isDotted l = true)
    (h : d.follow [] l.names = .ok place) : Locates d l (place, none)
  | entry {place ns : List String} {n : String} (hr : refusal? l = none) (hd : isDotted l = false)
    (hl : l.names = ns ++ [n]) (hs : n.utf8ByteSize ≤ maxName) (h : d.follow [] ns = .ok place) :
    Locates d l (place, some n)

theorem locate_eq_ok_iff {r : List String × Option String} :
    d.locate l = .ok r ↔ d.Locates l r := by
  rw [locate_eq]
  constructor
  case mp =>
    intro h
    cases hr : refusal? l
    case some => simp [hr] at h
    case none =>
      simp only [hr] at h
      cases hd : isDotted l
      case true =>
        cases hf : d.follow [] l.names <;> simp [hd, hf, Except.map] at h
        case ok place => exact h ▸ .directory hr hd hf
      case false =>
        have ⟨ns, n, hl, _⟩ := exists_concat_of_isDotted hd
        simp only [hd, hl, dropLast_concat, getLast?_concat, Option.getD_some,
          Bool.false_eq_true, if_false] at h
        cases hf : d.follow [] ns <;> simp only [hf, Except.bind, reduceCtorEq] at h
        case ok place =>
          split at h
          case isTrue => contradiction
          case isFalse hs =>
            obtain rfl := Except.ok.inj h
            exact .entry hr hd hl (Nat.le_of_not_lt hs) hf
  case mpr =>
    rintro (⟨hr, hd, h⟩ | ⟨hr, hd, hl, hs, h⟩)
    case directory => simp [hr, hd, h, Except.map]
    case entry => simp [hr, hd, hl, h, Except.bind, Nat.not_lt_of_le hs]

theorem Locates.of_keeps {r : List String × Option String} (hk : d.Keeps e)
    (h : d.Locates l r) : e.Locates l r := by
  cases h
  case directory hr hd h => exact .directory hr hd (follow_of_keeps hk h)
  case entry hr hd hl hs h => exact .entry hr hd hl hs (follow_of_keeps hk h)

theorem follow_of_leadsToDirectory (h : d.leadsToDirectory l = true) :
    ∃ place, d.follow [] l.names = .ok place := by
  rw [leadsToDirectory] at h
  split at h
  case h_1 place hl =>
    cases locate_eq_ok_iff.mp hl
    case directory h => exact ⟨_, h⟩
  case h_2 place n hl =>
    obtain _ | ⟨hr, hd, hn, hs, hf⟩ := locate_eq_ok_iff.mp hl
    have ⟨_, _, hn', hp⟩ := exists_concat_of_isDotted hd
    obtain ⟨rfl, rfl⟩ := append_singleton_inj.mp (hn.symm.trans hn')
    refine ⟨place ++ [n], ?_⟩
    rw [hn, follow_append_iff]
    exact ⟨place, hf, follow_cons_iff.mpr (.inr ⟨hp, hs, by simpa [isDirectory] using h, rfl⟩)⟩
  case h_3 => contradiction

theorem of_makeDirectory (h : d.makeDirectory l = .ok e) : ∃ place n, d.Locates l (place, some n) ∧
    d.get? (place ++ [n]) = none ∧ e = d.put (place ++ [n]) .directory := by
  rw [makeDirectory] at h
  cases hl : d.locate l
  case error => simp [hl, bind, Except.bind] at h
  case ok r =>
    obtain ⟨place, _ | n⟩ := r
    case none => simp [hl, bind, Except.bind] at h
    case some =>
      simp only [hl, bind, Except.bind] at h
      split at h
      case h_1 => contradiction
      case h_2 hg => exact ⟨place, n, locate_eq_ok_iff.mp hl, hg, (Except.ok.inj h).symm⟩

theorem of_write {text : String} (h : d.write l text = .ok e) : ∃ place n,
    d.Locates l (place, some n) ∧ d.get? (place ++ [n]) ≠ some .directory ∧
      e = d.put (place ++ [n]) (.file text) := by
  rw [write] at h
  cases hl : d.locate l
  case error => simp [hl, bind, Except.bind] at h
  case ok r =>
    obtain ⟨place, _ | n⟩ := r
    case none => simp [hl, bind, Except.bind] at h
    case some =>
      simp only [hl, bind, Except.bind] at h
      split at h
      case h_1 => contradiction
      case h_2 hg =>
        split at h
        case isTrue => contradiction
        case isFalse => exact ⟨place, n, locate_eq_ok_iff.mp hl, hg, (Except.ok.inj h).symm⟩

theorem write_of_locates (text : String) (hl : d.Locates l (place, some n))
    (hg : d.get? (place ++ [n]) ≠ some .directory) (he : l.endsWith "/" = false) :
    d.write l text = .ok (d.put (place ++ [n]) (.file text)) := by
  simp only [write, locate_eq_ok_iff.mpr hl, bind, Except.bind, he, Bool.false_eq_true, if_false]

-- The second disk is the first one with more directories on the way to a location.
structure Grows (l : Location) (d e : Disk) : Prop where
  kept (names : List String) (x : Entry) (h : d.get? names = some x) : e.get? names = some x
  made (names : List String) (x : Entry) (h : e.get? names = some x) : d.get? names = some x ∨
    x = .directory ∧ ∃ front, front <+: l.names ∧ e.follow [] front = .ok names

namespace Grows

theorem refl (l : Location) (d : Disk) : Grows l d d where
  kept _ _ h := h
  made _ _ h := .inl h

theorem keeps (h : Grows l d e) : d.Keeps e :=
  fun names => h.kept names .directory

theorem trans {f : Disk} (h₁ : Grows l d e) (h₂ : Grows l e f) : Grows l d f where
  kept names x h := h₂.kept names x (h₁.kept names x h)
  made names x h := by
    rcases h₂.made names x h with h | h
    case inr => exact .inr h
    case inl =>
      refine (h₁.made names x h).imp_right ?_
      rintro ⟨hx, front, hf, h⟩
      exact ⟨hx, front, hf, follow_of_keeps h₂.keeps h⟩

theorem of_front {p : Location} (hp : p.names <+: l.names) (h : Grows p d e) : Grows l d e where
  kept := h.kept
  made names x hx := by
    refine (h.made names x hx).imp_right ?_
    rintro ⟨hx, front, hf, h⟩
    exact ⟨hx, front, hf.trans hp, h⟩

end Grows

theorem Locates.follow_put (h : d.Locates l (place, some n)) :
    (d.put (place ++ [n]) .directory).follow [] l.names = .ok (place ++ [n]) := by
  obtain _ | ⟨hr, hd, hl, hs, hf⟩ := h
  have ⟨_, _, hl', hn⟩ := exists_concat_of_isDotted hd
  obtain ⟨rfl, rfl⟩ := append_singleton_inj.mp (hl.symm.trans hl')
  have hk : d.Keeps (d.put (place ++ [n]) .directory) := keeps_put (by simp) _ fun _ => rfl
  rw [hl, follow_append_iff]
  exact ⟨place, follow_of_keeps hk hf,
    follow_cons_iff.mpr (.inr ⟨hn, hs, get?_put_self d (by simp) _, rfl⟩)⟩

theorem grows_makeDirectory (h : d.makeDirectory l = .ok e) : Grows l d e := by
  obtain ⟨place, n, hl, hg, rfl⟩ := of_makeDirectory h
  constructor
  case kept =>
    intro names x hx
    rw [get?_put d (by simp), if_neg]
    · exact hx
    · rintro rfl
      rw [hg] at hx
      contradiction
  case made =>
    intro names x hx
    rw [get?_put d (by simp)] at hx
    split at hx
    case isFalse => exact .inl hx
    case isTrue hn =>
      refine .inr ⟨(Option.some.inj hx).symm, l.names, prefix_rfl, ?_⟩
      rw [hn]
      exact hl.follow_put

theorem grows_ensureDirectory (d : Disk) (l : Location) : Grows l d (d.ensureDirectory l).1 := by
  rw [ensureDirectory]
  cases h : d.makeDirectory l
  case error => exact .refl l d
  case ok e => exact grows_makeDirectory h

theorem grows_climb (d : Disk) (rounds : Nat) (l : Location) :
    Grows l d (makeDirectories.climb d rounds l).1 := by
  induction rounds generalizing l
  case zero => exact .refl l d
  case succ rounds ih =>
    rw [makeDirectories.climb]
    split
    case isTrue => exact .refl l d
    case isFalse =>
      split
      case h_1 h => exact grows_makeDirectory h
      case h_3 => exact .refl l d
      case h_2 =>
        split
        case h_1 => exact .refl l d
        case h_2 p hp =>
          have hn : p.names <+: l.names := Location.names_parent? hp ▸ dropLast_prefix l.names
          have hc := (ih p).of_front hn
          split
          case h_1 h => rwa [h] at hc
          case h_2 h =>
            rw [h] at hc
            exact hc.trans (grows_ensureDirectory _ l)

theorem grows_makeDirectories (d : Disk) (l : Location) : Grows l d (d.makeDirectories l).1 :=
  grows_climb d l.length l

end Disk

end Accessors
