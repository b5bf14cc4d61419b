import Accessors.Proofs.Recognition

namespace Accessors

open List

namespace Path

inductive Further : List Ident → List Token → Prop
  | none : Further [] []
  | more (i : Ident) (is : List Ident) (ts : List Token) (spacing : Spacing) (first second : Span)
    (h : Further is ts) :
    Further (i :: is) (.punct ':' .joint first :: .punct ':' spacing second :: .ident i :: ts)

inductive Written : Path → List Token → Prop
  | inScope (i : Ident) (is : List Ident) (ts : List Token) (h : Further is ts) :
    Written ⟨false, i :: is⟩ (.ident i :: ts)
  | «global» (i : Ident) (is : List Ident) (ts : List Token) (spacing : Spacing)
    (first second : Span) (h : Further is ts) :
    Written ⟨true, i :: is⟩
      (.punct ':' .joint first :: .punct ':' spacing second :: .ident i :: ts)

variable {scope : Span} {is : List Ident} {p : Path} {ts rest : List Token}

theorem readSegments_further (h : Further is ts) (hr : Entries.Ends rest) :
    Entries.readSegments scope (ts ++ rest) = .ok (is, rest) := by
  induction h
  case none => cases hr <;> rfl
  case more i is ts spacing first second _ ih =>
    simp only [cons_append, Entries.readSegments, ih]
    rfl

theorem readPath_written (h : Written p ts) (hr : Entries.Ends rest) :
    Entries.readPath scope (ts ++ rest) = .ok (p, rest) := by
  cases h
  case inScope i is ts h =>
    show Entries.readSegments scope (ts ++ rest) >>= _ = _
    rw [readSegments_further h hr]
    rfl
  case «global» i is ts spacing first second h =>
    show Entries.readSegments scope (ts ++ rest) >>= _ = _
    rw [readSegments_further h hr]
    rfl

-- Whether the path leads to the derive macro, as far as its last segment tells.
def LeadsToDerive (p : Path) : Prop :=
  ∃ i ∈ p.segments.getLast?, i.text = deriveName

end Path

namespace Attribute

-- `#[derive(…)]`, with paths in any delimiter
structure Derives (a : Attribute) (paths : List Path) : Prop where
  path : ∃ i : Ident, i.text = "derive" ∧ a.path = ⟨false, [i]⟩
  arguments : ∃ delimiter opened closed body, a.arguments = .list delimiter opened closed body ∧
    Entries.WrittenAny Path.Written paths body

def isDerive (a : Attribute) : Bool :=
  a.path.name?.any (·.text == "derive")

theorem Derives.isDerive {a : Attribute} {paths : List Path} (h : a.Derives paths) : a.isDerive := by
  obtain ⟨i, hi, hp⟩ := h.path
  rw [Attribute.isDerive, hp, Path.name?, Option.any_some, hi]
  rfl

end Attribute

def findsDerive (found : Bool) (p : Path) : Bool :=
  found || p.segments.getLast?.any (·.text == deriveName)

theorem follows_findsDerive (scope : Span) :
    Entries.Follows scope (fun p ts found => .ok (findsDerive found p, ts)) Path.Written
      (fun found p => .ok (findsDerive found p)) :=
  fun p _ rest _ h hr => ⟨p, rest, Path.readPath_written h hr, rfl⟩

theorem foldlM_findsDerive (found : Bool) (paths : List Path) :
    paths.foldlM (fun found p => .ok (findsDerive found p) : Bool → Path → Except Fault Bool) found =
      .ok (found || paths.any (findsDerive false)) := by
  induction paths generalizing found
  case nil => rw [foldlM_nil, any_nil, Bool.or_false]; rfl
  case cons p paths ih =>
    rw [foldlM_cons]
    refine (ih (findsDerive found p)).trans ?_
    simp [findsDerive, Bool.or_assoc]

theorem findsDerive_iff {p : Path} : findsDerive false p = true ↔ p.LeadsToDerive := by
  simp [findsDerive, Path.LeadsToDerive, Option.any_eq_true]

theorem Entries.eq_of_result {σ : Type} {x : σ × Option Fault} {s : σ} (h : result x = .ok s) :
    x.1 = s := by
  obtain ⟨t, _ | f⟩ := x <;> cases h
  rfl

theorem Attribute.Derives.visitArguments_iff {a : Attribute} {paths : List Path}
    (h : a.Derives paths) :
    (Entries.visitArguments a (fun _ p ts found => .ok (findsDerive found p, ts)) false).1 = true ↔
      ∃ p ∈ paths, p.LeadsToDerive := by
  obtain ⟨delimiter, opened, closed, body, ha, hw⟩ := h.arguments
  have hr := Entries.result_visitAny_writtenAny (follows_findsDerive closed) hw false
  rw [foldlM_findsDerive, Bool.false_or] at hr
  rw [Entries.visitArguments, ha, Entries.eq_of_result hr, any_eq_true]
  simp only [findsDerive_iff]

theorem derivesAccessors_iff {as : List Attribute}
    (h : ∀ a ∈ as, a.isDerive = true → ∃ paths, a.Derives paths) :
    derivesAccessors as = true ↔
      ∃ a ∈ as, ∃ paths, a.Derives paths ∧ ∃ p ∈ paths, p.LeadsToDerive := by
  rw [derivesAccessors, any_eq_true]
  refine exists_congr fun a => and_congr_right fun ha => ?_
  rw [Bool.and_eq_true]
  constructor
  case mp =>
    rintro ⟨hd, hv⟩
    obtain ⟨paths, hp⟩ := h a ha hd
    exact ⟨paths, hp, hp.visitArguments_iff.mp hv⟩
  case mpr =>
    rintro ⟨paths, hp, hd⟩
    exact ⟨hp.isDerive, hp.visitArguments_iff.mpr hd⟩

end Accessors
