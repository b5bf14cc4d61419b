import Mathlib.Data.List.TakeWhile
import Accessors.Disk.Location
import Accessors.Fragment.Basic

namespace Accessors

open List

namespace Location

def namesIn (cs : List Char) : List String :=
  ((cs.splitOn '/').map String.ofList).filter fun n => n != "" && n != "."

theorem names_eq (l : Location) : names l = namesIn l.toList := rfl

theorem namesIn_append (cs ds : List Char) :
    namesIn (cs ++ '/' :: ds) = namesIn cs ++ namesIn ds := by
  rw [namesIn, splitOn_append_cons_self, map_append, filter_append]
  rfl

theorem namesIn_nil : namesIn [] = [] := by
  decide

theorem namesIn_dot : namesIn ['.'] = [] := by
  decide

theorem namesIn_single {cs : List Char} (hs : '/' ∉ cs) (he : cs ≠ []) (hd : cs ≠ ['.']) :
    namesIn cs = [String.ofList cs] := by
  have he : String.ofList cs ≠ "" := fun h => he (by simpa using congrArg String.toList h)
  have hd : String.ofList cs ≠ "." := fun h => hd (by simpa using congrArg String.toList h)
  rw [namesIn, splitOn_eq_singleton hs]
  simp [he, hd]

theorem namesIn_trimReversed (cs : List Char) :
    namesIn (trimReversed cs).reverse = namesIn cs.reverse := by
  fun_induction trimReversed cs
  case case1 => rfl
  case case2 rest _ ih => rw [ih, reverse_cons, namesIn_append, namesIn_nil, append_nil]
  case case3 rest ih =>
    have hr : ('.' :: '/' :: rest).reverse = rest.reverse ++ '/' :: ['.'] := by simp
    rw [ih, hr, reverse_cons, namesIn_append, namesIn_append, namesIn_nil, namesIn_dot]
  case case4 => rfl

theorem trimReversed_suffix (cs : List Char) : trimReversed cs <:+ cs := by
  fun_induction trimReversed cs
  case case1 => exact suffix_rfl
  case case2 rest _ ih => exact ih.trans (suffix_cons '/' rest)
  case case3 rest ih => exact ih.trans (suffix_cons '.' ('/' :: rest))
  case case4 => exact suffix_rfl

theorem eq_nil_of_trimReversed {cs rest : List Char} (h : trimReversed cs = '/' :: rest) :
    rest = [] := by
  fun_induction trimReversed cs
  case case1 =>
    cases h
    rfl
  case case2 ih => exact ih h
  case case3 ih => exact ih h
  case case4 hs _ => exact absurd h (hs rest)

theorem trimReversed_ne (cs rest : List Char) : trimReversed cs ≠ '.' :: '/' :: rest := by
  fun_induction trimReversed cs
  case case1 => simp
  case case2 ih => exact ih
  case case3 ih => exact ih
  case case4 hd => exact hd rest

variable {l p : Location}

theorem exists_of_parent? (h : parent? l = some p) : ∃ cs,
    cs = trimReversed l.toList.reverse ∧ cs ≠ [] ∧ cs ≠ ['/'] ∧
      p.toList = (trimReversed (cs.dropWhile (· != '/'))).reverse := by
  rw [parent?] at h
  split at h
  case h_1 => contradiction
  case h_2 => contradiction
  case h_3 hn hs =>
    cases h
    exact ⟨_, rfl, hn, hs, String.toList_ofList⟩

theorem dropWhile_of_notMem {cs : List Char} (h : '/' ∉ cs) : cs.dropWhile (· != '/') = [] := by
  rw [dropWhile_eq_nil_iff]
  intro c hc
  simpa using ne_of_mem_of_not_mem hc h

theorem dropWhile_append_slash {cs : List Char} (h : '/' ∉ cs) (rest : List Char) :
    (cs ++ '/' :: rest).dropWhile (· != '/') = '/' :: rest := by
  rw [dropWhile_append, dropWhile_of_notMem h]
  rfl

theorem names_parent? (h : parent? l = some p) : p.names = l.names.dropLast := by
  obtain ⟨cs, hc, hn, hs, hp⟩ := exists_of_parent? h
  have hl : l.names = namesIn cs.reverse := by
    rw [hc, namesIn_trimReversed, reverse_reverse, names_eq]
  rw [hl, names_eq, hp, namesIn_trimReversed]
  by_cases hm : '/' ∈ cs
  case pos =>
    obtain ⟨last, rest, rfl, hw⟩ := eq_append_cons_of_mem hm
    have hw₁ : last ≠ [] := by
      rintro rfl
      exact hs (by rw [eq_nil_of_trimReversed hc.symm, nil_append])
    have hw₂ : last ≠ ['.'] := by
      rintro rfl
      exact trimReversed_ne _ _ hc.symm
    have hr : (last ++ '/' :: rest).reverse = rest.reverse ++ '/' :: last.reverse := by simp
    have hl : namesIn last.reverse = [String.ofList last.reverse] :=
      namesIn_single (by simpa using hw) (by simpa using hw₁)
        fun h => hw₂ (by simpa using congrArg List.reverse h)
    rw [dropWhile_append_slash hw, reverse_cons, namesIn_append, namesIn_nil, append_nil, hr,
      namesIn_append, hl, dropLast_concat]
  case neg =>
    have hr : '/' ∉ cs.reverse := by simpa using hm
    rw [dropWhile_of_notMem hm, reverse_nil, namesIn_nil]
    by_cases hd : cs.reverse = ['.']
    case pos => rw [hd, namesIn_dot, dropLast_nil]
    case neg => rw [namesIn_single hr (by simpa using hn) hd, dropLast_singleton]

theorem exists_parent? (h : l.names ≠ []) : ∃ p, parent? l = some p := by
  have hl : l.names = namesIn (trimReversed l.toList.reverse).reverse := by
    rw [namesIn_trimReversed, reverse_reverse, names_eq]
  rw [parent?]
  split
  case h_1 hn => exact absurd (by rw [hl, hn]; rfl) h
  case h_2 hs => exact absurd (by rw [hl, hs]; rfl) h
  case h_3 => exact ⟨_, rfl⟩

theorem parent?_prefix (h : parent? l = some p) : p.toList <+: l.toList := by
  obtain ⟨cs, hc, -, -, hp⟩ := exists_of_parent? h
  have ht := (trimReversed_suffix (cs.dropWhile (· != '/'))).trans (dropWhile_suffix _)
  rw [hp, ← reverse_suffix, reverse_reverse]
  exact ht.trans (hc ▸ trimReversed_suffix _)

-- The parent is shorter, so that the way up comes to an end.
theorem length_parent?_lt (h : parent? l = some p) : p.length < l.length := by
  obtain ⟨cs, hc, hn, hs, hp⟩ := exists_of_parent? h
  have hd : (cs.dropWhile (· != '/')).length < cs.length := by
    cases cs
    case nil => contradiction
    case cons c rest =>
      have hc : (c != '/') = true := by
        rw [bne_iff_ne]
        rintro rfl
        exact hs (by rw [eq_nil_of_trimReversed hc.symm])
      have hd : (c :: rest).dropWhile (· != '/') = rest.dropWhile (· != '/') :=
        dropWhile_cons_of_pos hc
      rw [hd]
      exact Nat.lt_succ_of_le (length_dropWhile_le _ rest)
  have ht := (trimReversed_suffix (cs.dropWhile (· != '/'))).length_le
  have hl := (trimReversed_suffix l.toList.reverse).length_le
  rw [← hc, length_reverse] at hl
  rw [← String.length_toList, ← String.length_toList, hp, length_reverse]
  omega

theorem endsWith_iff (l m : Location) : l.endsWith m = true ↔ m.toList <:+ l.toList := by
  have hs : l.endsWith m = l.toSlice.endsWith m := rfl
  rw [hs, String.Slice.endsWith_string_iff, String.copy_toSlice]

theorem endsWith_parent? (h : parent? l = some p) : p.endsWith "/." = false := by
  obtain ⟨cs, -, -, -, hp⟩ := exists_of_parent? h
  rw [← Bool.not_eq_true, endsWith_iff, hp, ← reverse_prefix]
  rintro ⟨rest, hr⟩
  exact trimReversed_ne _ rest (by rw [← reverse_reverse (trimReversed _), ← hr]; rfl)

theorem isRelative_iff (l : Location) : isRelative l = true ↔ ¬['/'] <+: l.toList := by
  rw [isRelative, Bool.not_eq_true', ← Bool.not_eq_true, String.startsWith_string_iff]
  rfl

theorem names_join (l : Location) {m : Location} (h : isRelative m = true) :
    (l.join m).names = l.names ++ m.names := by
  simp only [join, h, Bool.not_true, Bool.false_eq_true, if_false, Bool.or_eq_true,
    String.isEmpty_iff]
  split
  case isTrue hl =>
    rcases hl with rfl | hl
    case inl =>
      rw [String.empty_append]
      rfl
    case inr =>
      obtain ⟨cs, hl⟩ := (endsWith_iff l "/").mp hl
      have hl : l.toList = cs ++ '/' :: [] := hl.symm
      rw [names_eq, String.toList_append, hl, append_assoc, cons_append, nil_append,
        namesIn_append, names_eq l, hl, namesIn_append, namesIn_nil, append_nil, names_eq]
  case isFalse =>
    have hm : (l ++ "/" ++ m).toList = l.toList ++ '/' :: m.toList := by simp
    rw [names_eq, hm, namesIn_append, names_eq, names_eq]

theorem join_suffix (l m : Location) : m.toList <:+ (l.join m).toList := by
  rw [join]
  split
  case isTrue => exact suffix_rfl
  case isFalse =>
    split <;> (rw [String.toList_append]; exact suffix_append _ _)

-- A name that stands for itself, wherever it stands in a location.
def IsPlain (n : String) : Prop :=
  n ≠ "" ∧ '/' ∉ n.toList ∧ '.' ∉ n.toList

instance (n : String) : Decidable (IsPlain n) :=
  inferInstanceAs (Decidable (_ ∧ _))

theorem IsPlain.ne_back {n : String} (h : IsPlain n) : n ≠ ".." := by
  rintro rfl
  exact absurd h (by decide)

end Location

open Location

namespace Fragment

def ownName (name : String) : String :=
  name ++ "_memberaccess.rs"

theorem fileNameOf_nil (name : String) : fileNameOf [] name = ownName name := by
  rw [fileNameOf, ownName, filter_nil, map_nil, String.join_nil, String.empty_append]

theorem fileNameOf_cons {n : String} (hn : n ≠ "") (modules : List String) (name : String) :
    fileNameOf (n :: modules) name = n ++ "/" ++ fileNameOf modules name := by
  simp only [fileNameOf, filter_cons, bne_iff_ne, ne_eq, hn, not_false_eq_true, if_true, map_cons,
    String.join_cons, String.append_assoc]

theorem toList_ownName (name : String) :
    (ownName name).toList = name.toList ++ "_memberaccess.rs".toList := by
  rw [ownName, String.toList_append]

theorem ownName_injective {name other : String} (h : ownName name = ownName other) :
    name = other := by
  have h := congrArg String.toList h
  rw [toList_ownName, toList_ownName, append_cancel_right_eq] at h
  exact String.toList_inj.mp h

theorem not_slash_mem_ownName {name : String} (h : '/' ∉ name.toList) :
    '/' ∉ (ownName name).toList := by
  rw [toList_ownName, mem_append, not_or]
  exact ⟨h, by decide⟩

theorem names_ownName {name : String} (h : '/' ∉ name.toList) :
    names (ownName name) = [ownName name] := by
  have hl : 1 < (ownName name).toList.length := by
    rw [toList_ownName, length_append]
    have : "_memberaccess.rs".toList.length = 16 := by decide
    omega
  rw [names_eq, namesIn_single (not_slash_mem_ownName h), String.ofList_toList]
  · rintro hn
    rw [hn] at hl
    contradiction
  · rintro hn
    rw [hn] at hl
    contradiction

theorem names_plain {n : String} (h : IsPlain n) : names n = [n] := by
  have hd : n.toList ≠ ['.'] := fun hd => h.2.2 (by simp [hd])
  rw [names_eq, namesIn_single h.2.1 (by simpa using h.1) hd, String.ofList_toList]

variable {modules : List String} {name : String}

theorem names_fileNameOf (hm : ∀ n ∈ modules, IsPlain n) (hn : IsPlain name) :
    names (fileNameOf modules name) = modules ++ [ownName name] := by
  induction modules
  case nil => rw [fileNameOf_nil, names_ownName hn.2.1, nil_append]
  case cons n modules ih =>
    have ⟨hp, hm⟩ := forall_mem_cons.mp hm
    have hl : (n ++ "/" ++ fileNameOf modules name).toList =
        n.toList ++ '/' :: (fileNameOf modules name).toList := by simp
    rw [fileNameOf_cons hp.1, names_eq, hl, namesIn_append, ← names_eq, ← names_eq,
      names_plain hp, ih hm]
    rfl

theorem not_slash_prefix {n : String} (h : IsPlain n) (rest : List Char) :
    ¬['/'] <+: n.toList ++ rest := by
  intro hs
  have hl : 0 < n.toList.length := length_pos_iff.mpr (by simpa using h.1)
  have hn := prefix_of_prefix_length_le hs (prefix_append n.toList rest) hl
  exact h.2.1 (hn.subset (.head _))

theorem isRelative_fileNameOf (hm : ∀ n ∈ modules, IsPlain n) (hn : IsPlain name) :
    isRelative (fileNameOf modules name) = true := by
  rw [isRelative_iff]
  cases modules
  case nil =>
    rw [fileNameOf_nil, toList_ownName]
    exact not_slash_prefix hn _
  case cons n modules =>
    have ⟨hp, _⟩ := forall_mem_cons.mp hm
    rw [fileNameOf_cons hp.1, String.append_assoc, String.toList_append]
    exact not_slash_prefix hp _

theorem fileNameOf_suffix (modules : List String) (name : String) :
    ['s'] <:+ (fileNameOf modules name).toList := by
  have hs : ['s'] <:+ "_memberaccess.rs".toList := by decide
  rw [fileNameOf, String.toList_append]
  exact hs.trans (suffix_append _ _)

end Fragment

end Accessors
