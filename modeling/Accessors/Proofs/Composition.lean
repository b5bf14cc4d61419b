import Accessors.Proofs.Agreement
import Accessors.Proofs.Markers
import Accessors.Proofs.Places
import Accessors.Proofs.Signatures

namespace Accessors

namespace Declaration

variable {d e : Declaration} {members others : List Member}

def methodTokens (d : Declaration) (members : List Member) (c : Capability) : List Token :=
  (Method.of d.name.name members c).tokens (.of members d.generics)

theorem exists_methodTokens (d : Declaration) (members : List Member) (c : Capability) :
    ∃ before after, d.methodTokens members c =
      before ++ .word "fn" :: .word c.accessor :: after := by
  have he (documentation rest block : List Token) (name : String) :
      documentation ++ (.word "pub" :: .word "fn" :: .word name :: rest) ++ block =
        (documentation ++ [.word "pub"]) ++ .word "fn" :: .word name :: (rest ++ block) := by
    simp
  cases c <;> exact ⟨_, _, he _ _ _ _⟩

theorem map_methodTokens (d : Declaration) (members : List Member) (c : Capability) :
    (d.methodTokens members c).map Token.unlocated =
      (Method.of d.name.name (members.map Member.unlocated) c).tokens
        (.of (members.map Member.unlocated) d.generics.unlocated) := by
  rw [methodTokens, Value.of_unlocated, Method.tokens_unlocated]

theorem map_implHead (d : Declaration) : d.implHead.map Token.unlocated =
    Token.operator "#" ++
      [.enclosed .bracket [.word "allow", .enclosed .paren [.word "dead_code"]], .word "impl"] ++
      d.generics.unlocated.introduced ++ [.ident d.name.unlocated] ++
      d.generics.unlocated.arguments ++ d.clause.tokens.map Token.unlocated := by
  have hi := d.generics.write_unlocated Parameter.introduced_unlocated
  have ha := d.generics.write_unlocated Parameter.argument_unlocated
  rw [Generics.introduced, Generics.arguments, hi, ha]
  simp [implHead, Generics.introduced, Generics.arguments]

-- Declarations that may stand anywhere, but differ in nothing else that accessors are made from.
structure Resembles (d e : Declaration) : Prop where
  name : d.name.unlocated = e.name.unlocated
  generics : d.generics.unlocated = e.generics.unlocated
  clause : d.clause.tokens.map Token.unlocated = e.clause.tokens.map Token.unlocated
  members : d.members?.map (·.map Member.unlocated) = e.members?.map (·.map Member.unlocated)

namespace Resembles

theorem implHead_eq (h : d.Resembles e) :
    d.implHead.map Token.unlocated = e.implHead.map Token.unlocated := by
  rw [map_implHead, map_implHead, h.name, h.generics, h.clause]

theorem exists_members (h : d.Resembles e) (hm : d.members? = some members) : ∃ others,
    e.members? = some others ∧ members.map Member.unlocated = others.map Member.unlocated := by
  have h := h.members
  rw [hm, Option.map_some, eq_comm, Option.map_eq_some_iff] at h
  obtain ⟨others, ho, h⟩ := h
  exact ⟨others, ho, h.symm⟩

theorem methodTokens_eq (h : d.Resembles e)
    (hm : members.map Member.unlocated = others.map Member.unlocated) (c : Capability) :
    (d.methodTokens members c).map Token.unlocated =
      (e.methodTokens others c).map Token.unlocated := by
  have hn : d.name.name = e.name.name := (Ident.mk.inj h.name).left
  rw [map_methodTokens, map_methodTokens, hn, hm, h.generics]

end Resembles

end Declaration

def composed (head : List Token) (method : Capability → List Token) (s : Capabilities) :
    List Token :=
  head ++ [.enclosed .brace
    (([.byIndex, .byName, .enumerate] : List Capability).filter s.contains |>.flatMap method)]

theorem map_composed (head : List Token) (method : Capability → List Token) (s : Capabilities) :
    (composed head method s).map Token.unlocated =
      composed (head.map Token.unlocated) (fun c => (method c).map Token.unlocated) s := by
  simp [composed, List.map_flatMap]

theorem Candidate.tokens_fragment? (c : Candidate) (members : List Member) (s : Capabilities) :
    (c.fragment? members s).map (·.tokens) = if s.isEmpty then none else
      some (composed c.declaration.implHead (c.declaration.methodTokens members) s) := by
  rw [fragment?]
  split <;> rfl

theorem Candidate.map_tokens_fragment? (c : Candidate) (members : List Member) (s : Capabilities) :
    (c.fragment? members s).map (·.tokens.map Token.unlocated) = if s.isEmpty then none else
      some (composed (c.declaration.implHead.map Token.unlocated)
        (fun x => (c.declaration.methodTokens members x).map Token.unlocated) s) := by
  rw [← map_composed]
  have h := congrArg (Option.map (List.map Token.unlocated)) (c.tokens_fragment? members s)
  rw [Option.map_map] at h
  refine h.trans ?_
  split <;> rfl

theorem Registry.process_of_classify {r : Registry} {c : Candidate} {members : List Member}
    {s : Capabilities} (hm : c.declaration.members? = some members)
    (hc : r.classify c.declaration.attributes = .ok s) (hs : s.isEmpty = false) :
    ∃ f, r.process c = .generated s f ∧ f.tokens.map Token.unlocated =
      composed (c.declaration.implHead.map Token.unlocated)
        (fun x => (c.declaration.methodTokens members x).map Token.unlocated) s := by
  have hf := c.map_tokens_fragment? members s
  rw [hs, if_neg Bool.false_ne_true, Option.map_eq_some_iff] at hf
  obtain ⟨f, hf, ht⟩ := hf
  refine ⟨f, ?_, ht⟩
  simp only [process, hc, hs, if_neg Bool.false_ne_true, hm, hf]

-- For declarations with the same name, generics and fields there is one head and one accessor for
-- each capability, and their fragments are composed of these alone. So neither the modules around a
-- declaration, nor its attributes, nor what else is asked for have a say in an accessor. It makes no
-- difference by which markers and under which registry the same is asked for.
theorem Candidate.accessors_stand_alone {c d : Candidate} {members : List Member}
    (h : c.declaration.Resembles d.declaration) (hm : c.declaration.members? = some members) :
    ∃ (others : List Member) (head : List Token) (method : Capability → List Token),
      d.declaration.members? = some others ∧
      (∀ x, ∃ before after, method x = before ++ .word "fn" :: .word x.accessor :: after) ∧
      (∀ s, (c.fragment? members s).map (·.tokens.map Token.unlocated) =
        if s.isEmpty then none else some (composed head method s)) ∧
      (∀ s, (d.fragment? others s).map (·.tokens.map Token.unlocated) =
        if s.isEmpty then none else some (composed head method s)) ∧
      ∀ (r q : Registry) (s : Capabilities), r.classify c.declaration.attributes = .ok s →
        q.classify d.declaration.attributes = .ok s → s.isEmpty = false →
          ∃ f g, r.process c = .generated s f ∧ q.process d = .generated s g ∧
            f.tokens.map Token.unlocated = composed head method s ∧
            g.tokens.map Token.unlocated = composed head method s ∧ g.text = f.text := by
  obtain ⟨others, ho, hmo⟩ := h.exists_members hm
  have hc (s : Capabilities) : composed (d.declaration.implHead.map Token.unlocated)
      (fun x => (d.declaration.methodTokens others x).map Token.unlocated) s =
        composed (c.declaration.implHead.map Token.unlocated)
          (fun x => (c.declaration.methodTokens members x).map Token.unlocated) s := by
    rw [h.implHead_eq, funext (h.methodTokens_eq hmo)]
  refine ⟨others, c.declaration.implHead.map Token.unlocated,
    fun x => (c.declaration.methodTokens members x).map Token.unlocated, ho, fun x => ?accessor,
    c.map_tokens_fragment? members, fun s => ?fragment, fun r q s hr hq hs => ?processed⟩
  case accessor =>
    obtain ⟨before, after, he⟩ := c.declaration.exists_methodTokens members x
    exact ⟨before.map Token.unlocated, after.map Token.unlocated, by simp [he]⟩
  case fragment => rw [d.map_tokens_fragment? others, hc]
  case processed =>
    obtain ⟨f, hf, hft⟩ := Registry.process_of_classify hm hr hs
    obtain ⟨g, hg, hgt⟩ := Registry.process_of_classify ho hq hs
    rw [hc] at hgt
    exact ⟨f, g, hf, hg, hft, hgt, renderTokens_eq_of_map_unlocated (hgt.trans hft.symm)⟩

-- `#[idx] #[by_name] struct Point { x: u8, r#type: u16 }` in a module, where `idx` is an alias
def aliasedStruct : Candidate :=
  ⟨["shapes"], { rawStruct with attributes := [plainMarker "idx", plainMarker "by_name"] }⟩

-- `#[doc] #[member_access(by_name)] #[by_index] struct Point { x: u8, r#type: u16 }`, elsewhere
def listedStruct : Candidate :=
  ⟨[], { rawStruct with
    name := ⟨"Point", false, ⟨⟨2, 7⟩, ⟨2, 12⟩⟩⟩
    attributes := [plainMarker "doc", listedMarker "by_name", plainMarker "by_index"] }⟩

theorem aliased_and_listed_alike :
    aliasedStruct.declaration.Resembles listedStruct.declaration ∧
    aliasedStruct.declaration.members? = some rawFields.members ∧
    indexAlias.classify aliasedStruct.declaration.attributes =
      .ok (.ofList [.byIndex, .byName]) ∧
    Registry.canonical.classify listedStruct.declaration.attributes =
      .ok (.ofList [.byIndex, .byName]) ∧
    ∃ f g, indexAlias.process aliasedStruct = .generated (.ofList [.byIndex, .byName]) f ∧
      Registry.canonical.process listedStruct = .generated (.ofList [.byIndex, .byName]) g ∧
      g.tokens.map Token.unlocated = f.tokens.map Token.unlocated ∧ g.text = f.text := by
  have hr : aliasedStruct.declaration.Resembles listedStruct.declaration := ⟨rfl, rfl, rfl, rfl⟩
  have hm : aliasedStruct.declaration.members? = some rawFields.members := rfl
  have ha : indexAlias.classify aliasedStruct.declaration.attributes =
      .ok (.ofList [.byIndex, .byName]) := rfl
  have hl : Registry.canonical.classify listedStruct.declaration.attributes =
      .ok (.ofList [.byIndex, .byName]) := rfl
  obtain ⟨_, _, _, _, _, _, _, hp⟩ := Candidate.accessors_stand_alone hr hm
  obtain ⟨f, g, hf, hg, hft, hgt, ht⟩ := hp _ _ _ ha hl rfl
  exact ⟨hr, hm, ha, hl, f, g, hf, hg, hgt.trans hft.symm, ht⟩

end Accessors
