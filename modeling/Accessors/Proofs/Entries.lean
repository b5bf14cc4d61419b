import Accessors.Marker.Resolution

namespace Accessors.Entries

variable {α σ : Type}

-- A list has a comma between each two entries, and perhaps another one behind the last of them.
inductive Written (entry : α → List Token → Prop) : List α → List Token → Prop
  | last (a : α) (ts : List Token) (h : entry a ts) : Written entry [a] ts
  | closed (a : α) (ts : List Token) (spacing : Spacing) (comma : Span) (h : entry a ts) :
    Written entry [a] (ts ++ [.punct ',' spacing comma])
  | more (a : α) (as : List α) (ts us : List Token) (spacing : Spacing) (comma : Span)
    (h : entry a ts) (hs : Written entry as us) :
    Written entry (a :: as) (ts ++ .punct ',' spacing comma :: us)

inductive Ends : List Token → Prop
  | done : Ends []
  | comma (spacing : Spacing) (comma : Span) (rest : List Token) :
    Ends (.punct ',' spacing comma :: rest)

-- A visitor that makes of each entry what a function makes of it, and leaves alone what is behind.
def Follows (scope : Span) (visitor : Visitor σ) (entry : α → List Token → Prop)
    (step : σ → α → Except Fault σ) : Prop :=
  ∀ a ts rest s, entry a ts → Ends rest → ∃ path mid,
    readPath scope (ts ++ rest) = .ok (path, mid) ∧
      visitor path mid s = (step s a).map fun s => (s, rest)

theorem readPath_name {scope : Span} {i : Ident} {rest : List Token} (h : Ends rest) :
    readPath scope (.ident i :: rest) = .ok (⟨false, [i]⟩, rest) := by
  cases h <;> rfl

theorem readPunct_punct (scope : Span) (c : Char) (spacing : Spacing) (span : Span)
    (rest : List Token) : readPunct scope c (.punct c spacing span :: rest) = .ok rest := by
  rw [readPunct, if_pos rfl]

theorem readName_ident (scope : Span) (i : Ident) (rest : List Token) :
    readName scope (.ident i :: rest) =
      if Ahead.reserved.contains i.text then fault (.reservedName i.text) i.span
      else .ok (i, rest) :=
  rfl

theorem readString_literal (scope span : Span) {text value : String} (rest : List Token)
    (h : Text.unquote? text = some value) :
    readString scope (.literal text span :: rest) = .ok (value, rest) := by
  rw [readString, h]

theorem foldlM_eq_error_iff {ε : Type} {f : σ → α → Except ε σ} {as : List α} {s : σ} {e : ε} :
    as.foldlM f s = .error e ↔ ∃ before a after t,
      as = before ++ a :: after ∧ before.foldlM f s = .ok t ∧ f t a = .error e := by
  constructor
  case mp =>
    intro h
    induction as generalizing s
    case nil => contradiction
    case cons a as ih =>
      rw [List.foldlM_cons] at h
      cases ha : f s a
      case error =>
        rw [ha] at h
        cases h
        exact ⟨[], a, as, s, rfl, rfl, ha⟩
      case ok u =>
        rw [ha] at h
        obtain ⟨before, b, after, t, rfl, hb, hf⟩ := ih h
        refine ⟨a :: before, b, after, t, rfl, ?_, hf⟩
        rw [List.foldlM_cons, ha]
        exact hb
  case mpr =>
    rintro ⟨before, a, after, t, rfl, hb, hf⟩
    rw [List.foldlM_append, hb]
    exact congrArg (· >>= fun u => after.foldlM f u) hf

section Visit

variable {scope : Span} {visitor : Visitor σ} {entry : α → List Token → Prop}
variable {step : σ → α → Except Fault σ} (hv : Follows scope visitor entry step)
variable {a : α} {ts us : List Token}

include hv

theorem result_visit_last (h : entry a ts) (n : Nat) (s : σ) :
    result (visit scope visitor (n + 1) ts s) = step s a := by
  obtain ⟨path, mid, hp, hm⟩ := hv a ts [] s h .done
  rw [List.append_nil] at hp
  rw [visit, hp]
  simp only [hm]
  cases step s a <;> rfl

theorem result_visit_closed (h : entry a ts) (n : Nat) (s : σ) (spacing : Spacing)
    (comma : Span) :
    result (visit scope visitor (n + 1) (ts ++ [.punct ',' spacing comma]) s) = step s a := by
  obtain ⟨path, mid, hp, hm⟩ := hv a ts _ s h (.comma spacing comma [])
  rw [visit, hp]
  simp only [hm]
  cases step s a <;> rfl

theorem result_visit_more (h : entry a ts) (hu : us ≠ []) (n : Nat) (s : σ) (spacing : Spacing)
    (comma : Span) :
    result (visit scope visitor (n + 1) (ts ++ .punct ',' spacing comma :: us) s) =
      step s a >>= fun s => result (visit scope visitor n us s) := by
  obtain ⟨path, mid, hp, hm⟩ := hv a ts _ s h (.comma spacing comma us)
  obtain ⟨u, us, rfl⟩ := List.exists_cons_of_ne_nil hu
  rw [visit, hp]
  simp only [hm]
  cases step s a <;> rfl

theorem ne_nil_of_entry (h : entry a ts) (s : σ) : ts ≠ [] := by
  rintro rfl
  obtain ⟨path, mid, hp, _⟩ := hv a [] [] s h .done
  contradiction

theorem ne_nil_of_written {as : List α} (h : Written entry as ts) (s : σ) : ts ≠ [] := by
  cases h
  case last h => exact ne_nil_of_entry hv h s
  case closed => simp
  case more => simp

theorem result_visit_written {as : List α} (h : Written entry as ts) {n : Nat}
    (hn : ts.length < n) (s : σ) :
    result (visit scope visitor n ts s) = as.foldlM step s := by
  induction h generalizing n s
  case last a ts h =>
    obtain ⟨n, rfl⟩ := Nat.exists_eq_add_one_of_ne_zero (Nat.ne_zero_of_lt hn)
    rw [result_visit_last hv h, List.foldlM_cons]
    exact (bind_pure _).symm
  case closed a ts spacing comma h =>
    obtain ⟨n, rfl⟩ := Nat.exists_eq_add_one_of_ne_zero (Nat.ne_zero_of_lt hn)
    rw [result_visit_closed hv h, List.foldlM_cons]
    exact (bind_pure _).symm
  case more a as ts us spacing comma h hs ih =>
    obtain ⟨n, rfl⟩ := Nat.exists_eq_add_one_of_ne_zero (Nat.ne_zero_of_lt hn)
    rw [result_visit_more hv h (ne_nil_of_written hv hs s), List.foldlM_cons]
    congr 1
    funext s
    rw [List.length_append, List.length_cons] at hn
    exact ih (by omega) s

theorem result_visitSome {as : List α} (h : Written entry as ts) (s : σ) :
    result (visitSome scope visitor ts s) = as.foldlM step s :=
  result_visit_written hv h (Nat.lt_succ_self _) s

theorem result_visitAny {as : List α} (h : Written entry as ts) (s : σ) :
    result (visitAny scope visitor ts s) = as.foldlM step s := by
  have hne := ne_nil_of_written hv h s
  rw [visitAny, List.isEmpty_eq_false_iff.mpr hne]
  exact result_visitSome hv h s

end Visit

section Commutes

variable {scope : Span} {visitor : Visitor σ} {f : σ → σ}

def Commutes (visitor : Visitor σ) (f : σ → σ) : Prop :=
  ∀ path ts s, visitor path ts (f s) = (visitor path ts s).map (Prod.map f id)

theorem Commutes.visit (h : Commutes visitor f) (n : Nat) (ts : List Token) (s : σ) :
    Entries.visit scope visitor n ts (f s) = (Entries.visit scope visitor n ts s).map f id := by
  induction n generalizing ts s
  case zero => rfl
  case succ n ih =>
    rw [Entries.visit, Entries.visit]
    cases readPath scope ts
    case error => rfl
    case ok r =>
      obtain ⟨path, mid⟩ := r
      simp only [h path mid s]
      cases visitor path mid s
      case error => rfl
      case ok r =>
        obtain ⟨t, rest⟩ := r
        cases rest
        case nil => rfl
        case cons u rest =>
          simp only [Except.map, Prod.map, id]
          cases readPunct scope ',' (u :: rest)
          case error => rfl
          case ok rest =>
            cases rest
            case nil => rfl
            case cons => exact ih _ t

theorem Commutes.visitAny (h : Commutes visitor f) (ts : List Token) (s : σ) :
    result (Entries.visitAny scope visitor ts (f s)) =
      (result (Entries.visitAny scope visitor ts s)).map f := by
  rw [Entries.visitAny, Entries.visitAny]
  cases ts.isEmpty
  case true => rfl
  case false =>
    simp only [Bool.false_eq_true, if_false, visitSome, h.visit]
    rcases Entries.visit scope visitor (ts.length + 1) ts s with ⟨t, _ | fault⟩ <;> rfl

end Commutes

end Accessors.Entries
