import Cohort.Proofs.Catalog.Prefetch
import Cohort.Proofs.Metadata.Agreement
import Mathlib.Data.List.Nodup

/-!
# What fetching asks for

A client with a record beside its state notes each question for an attribute or a relationship with its answer
(`MetadataClient.recorded`). The record changes nothing of what is fetched, and it shows that fetching asks for nothing
that is held, for nothing twice and for nothing that the criteria do not need, that it keeps what the answers are and
nothing else, and that it fails by the last answer or not at all (`prefetch_minimal`).

`Notes` says how work with a record ends; there is one lemma for each part of fetching, up to `notes_all`. `Fetches` is
what they all have in common, and `Fetches.append` puts it together for work after work.
-/

namespace Cohort

/-! ## Questions -/

/-- A question that was put to a client, with the answer. -/
inductive Asked where
  /-- For the attribute of an entity. -/
  | attribute (entity id : Uuid) (answer : Except MetadataError Attribute)
  /-- For a relationship. -/
  | relationship (id : Uuid) (answer : Except MetadataError Relationship)

namespace Asked

/-- What was asked for: an attribute or a relationship, by its identifier. -/
def key : Asked → Uuid ⊕ Uuid
  | .attribute _ id _ => .inl id
  | .relationship id _ => .inr id

/-- The error that was answered, if it was one. -/
def error? : Asked → Option MetadataError
  | .attribute _ _ (.error e) => some e
  | .relationship _ (.error e) => some e
  | _ => none

end Asked

/-- The attributes of a relationship, each with the entity that it belongs to. -/
def Relationship.keys (r : Relationship) : List (Uuid × Uuid) :=
  [(r.sourceEntityId, r.sourceAttributeId), (r.targetEntityId, r.targetAttributeId)]

namespace MetadataClient

variable {σ : Type}

/-- A question that is noted with its answer. -/
def noting {α : Type} (note : Except MetadataError α → Asked) (q : Lookup σ α) : Lookup (σ × List Asked) α := fun t =>
  let (answer, s) := q.run t.1
  (answer, s, t.2 ++ [note answer])

/-- The client with a record of the questions for attributes and relationships beside its state. -/
def recorded (client : MetadataClient σ) : MetadataClient (σ × List Asked) where
  group id := (client.group id).zoom Prod.fst fun t s => (s, t.2)
  entity id := (client.entity id).zoom Prod.fst fun t s => (s, t.2)
  attributeOf entity id := noting (.attribute entity id) (client.attributeOf entity id)
  relationship id := noting (.relationship id) (client.relationship id)
  workflows group := (client.workflows group).zoom Prod.fst fun t s => (s, t.2)

/-- The record changes no answer. -/
theorem agrees_recorded (client : MetadataClient σ) : client.recorded.Agrees client fun t s => t.1 = s := by
  constructor
  all_goals
    intros
    rintro t _ rfl
    exact ⟨rfl, rfl⟩

end MetadataClient

/-! ## What is held -/

namespace Definitions

/-- Something is held under the identifier of an attribute or a relationship. -/
def Holds (d : Definitions) : Uuid ⊕ Uuid → Prop
  | .inl id => (d.attribute? id).isSome
  | .inr id => (d.relationship? id).isSome

/-- The number of definitions. -/
def size (d : Definitions) : Nat := d.attributes.size + d.relationships.size

variable {d d' : Definitions}

theorem not_holds_attribute {id : Uuid} (h : d.attribute? id = none) : ¬d.Holds (.inl id) := by
  rw [Holds, h]
  decide

theorem not_holds_relationship {id : Uuid} (h : d.relationship? id = none) : ¬d.Holds (.inr id) := by
  rw [Holds, h]
  decide

theorem size_withAttribute {id : Uuid} (h : d.attribute? id = none) (a : Attribute) :
    (d.withAttribute id a).size = d.size + 1 := by
  have hsize : (d.withAttribute id a).attributes.size = d.attributes.size + 1 := Table.size_insert h a
  have hsame : (d.withAttribute id a).relationships.size = d.relationships.size := rfl
  rw [size, size]
  omega

theorem size_withRelationship {id : Uuid} (h : d.relationship? id = none) (r : Relationship) :
    (d.withRelationship id r).size = d.size + 1 := by
  have hsize : (d.withRelationship id r).relationships.size = d.relationships.size + 1 := Table.size_insert h r
  have hsame : (d.withRelationship id r).attributes.size = d.attributes.size := rfl
  rw [size, size]
  omega

end Definitions

theorem Progress.holds {d d' : Definitions} (h : Progress d d') : ∀ {k : Uuid ⊕ Uuid}, d.Holds k → d'.Holds k
  | .inl _, hk => h.holdsAttribute hk
  | .inr _, hk => h.holdsRelationship hk

/-! ## What questions change -/

/-- **What fetching does to definitions**, and what it asks for it. -/
structure Fetches (d : Definitions) (r : Except MetadataError Unit) (d' : Definitions) (asked : List Asked) : Prop where
  /-- What was held is held unchanged, and what comes is complete. -/
  progress : Progress d d'
  /-- An attribute that comes is the answer to a question for it. -/
  attributes : ∀ id a, d'.attribute? id = some a → d.attribute? id = some a ∨ ∃ entity, .attribute entity id (.ok a) ∈ asked
  /-- A relationship that comes is the answer to a question for it. -/
  relationships : ∀ id rel, d'.relationship? id = some rel → d.relationship? id = some rel ∨
    .relationship id (.ok rel) ∈ asked
  /-- Nothing that was held is asked for. -/
  fresh : ∀ x ∈ asked, ¬d.Holds x.key
  /-- Nothing is asked for twice. -/
  once : (asked.map Asked.key).Nodup
  /-- If all goes well, no answer is an error. -/
  answered : r = .ok () → ∀ x ∈ asked, x.error? = none
  /-- If all goes well, everything that was asked for is held. -/
  held : r = .ok () → ∀ x ∈ asked, d'.Holds x.key
  /-- If all goes well, as many definitions come as questions were asked. -/
  size : r = .ok () → d'.size = d.size + asked.length
  /-- The first answer that is an error is the last one, and it is the result. -/
  error : ∀ e, r = .error e → ∃ before last, asked = before ++ [last] ∧ (∀ x ∈ before, x.error? = none) ∧
    last.error? = some e

namespace Fetches

variable {d d₁ d' : Definitions} {r : Except MetadataError Unit} {asked asked₁ asked' : List Asked}

theorem nothing (d : Definitions) : Fetches d (.ok ()) d [] where
  progress := .refl d
  attributes _ _ := .inl
  relationships _ _ := .inl
  fresh := List.forall_mem_nil _
  once := List.nodup_nil
  answered _ := List.forall_mem_nil _
  held _ := List.forall_mem_nil _
  size _ := rfl
  error _ h := by cases h

/-- A question that is answered by an error ends the work. -/
theorem failure {x : Asked} {e : MetadataError} (hfresh : ¬d.Holds x.key) (herror : x.error? = some e) :
    Fetches d (.error e) d [x] where
  progress := .refl d
  attributes _ _ := .inl
  relationships _ _ := .inl
  fresh := List.forall_mem_singleton.2 hfresh
  once := List.pairwise_singleton _ _
  answered h := by cases h
  held h := by cases h
  size h := by cases h
  error _ h := by
    cases h
    exact ⟨[], x, rfl, List.forall_mem_nil _, herror⟩

/-- An attribute that is answered is kept. -/
theorem keeping {id : Uuid} (hnone : d.attribute? id = none) (entity : Uuid) (a : Attribute) :
    Fetches d (.ok ()) (d.withAttribute id a) [.attribute entity id (.ok a)] where
  progress := Definitions.progress_withAttribute hnone a
  attributes k b hk := by
    rw [Definitions.attribute?_withAttribute] at hk
    split at hk
    · rename_i hid
      cases hk
      rw [hid]
      exact .inr ⟨entity, List.mem_singleton_self _⟩
    · exact .inl hk
  relationships _ _ := .inl
  fresh := List.forall_mem_singleton.2 (Definitions.not_holds_attribute hnone)
  once := List.pairwise_singleton _ _
  answered _ := List.forall_mem_singleton.2 rfl
  held _ := by
    refine List.forall_mem_singleton.2 ?_
    show ((d.withAttribute id a).attribute? id).isSome
    rw [Definitions.attribute?_withAttribute, if_pos rfl, Option.isSome_some]
  size _ := Definitions.size_withAttribute hnone a
  error _ h := by cases h

/-- Work after work that went well. -/
theorem append (h : Fetches d (.ok ()) d₁ asked₁) (h' : Fetches d₁ r d' asked') : Fetches d r d' (asked₁ ++ asked') where
  progress := h.progress.trans h'.progress
  attributes id a ha := by
    obtain ha | ⟨entity, hmem⟩ := h'.attributes id a ha
    · obtain ha | ⟨entity, hmem⟩ := h.attributes id a ha
      · exact .inl ha
      · exact .inr ⟨entity, List.mem_append_left _ hmem⟩
    · exact .inr ⟨entity, List.mem_append_right _ hmem⟩
  relationships id rel hrel := by
    obtain hrel | hmem := h'.relationships id rel hrel
    · exact (h.relationships id rel hrel).imp_right (List.mem_append_left _)
    · exact .inr (List.mem_append_right _ hmem)
  fresh := List.forall_mem_append.2 ⟨h.fresh, fun x hx hheld => h'.fresh x hx (h.progress.holds hheld)⟩
  once := by
    rw [List.map_append, List.nodup_append]
    refine ⟨h.once, h'.once, fun k hk k' hk' hsame => ?_⟩
    -- what the first work asked for is held when the second begins
    obtain ⟨x, hx, rfl⟩ := List.mem_map.1 hk
    obtain ⟨x', hx', rfl⟩ := List.mem_map.1 hk'
    exact h'.fresh x' hx' (hsame ▸ h.held rfl x hx)
  answered hr := List.forall_mem_append.2 ⟨h.answered rfl, h'.answered hr⟩
  held hr := List.forall_mem_append.2 ⟨fun x hx => h'.progress.holds (h.held rfl x hx), h'.held hr⟩
  size hr := by
    rw [h'.size hr, h.size rfl, List.length_append, Nat.add_assoc]
  error e he := by
    obtain ⟨before, last, rfl, hbefore, hlast⟩ := h'.error e he
    exact ⟨asked₁ ++ before, last, (List.append_assoc ..).symm, List.forall_mem_append.2 ⟨h.answered rfl, hbefore⟩, hlast⟩

theorem once_behind {id : Uuid} {answer : Except MetadataError Relationship} (h : Fetches d r d' asked)
    (hasked : ∀ x ∈ asked, x.key ≠ .inr id) : ((Asked.relationship id answer :: asked).map Asked.key).Nodup := by
  rw [List.map_cons, List.nodup_cons]
  refine ⟨fun hmem => ?_, h.once⟩
  obtain ⟨x, hx, hkey⟩ := List.mem_map.1 hmem
  exact hasked x hx hkey

/-- A relationship is answered, and the work that it makes necessary fails. -/
theorem behind_failure {id : Uuid} {rel : Relationship} {e : MetadataError} (hnone : d.relationship? id = none)
    (h : Fetches d (.error e) d' asked) (hasked : ∀ x ∈ asked, x.key ≠ .inr id) :
    Fetches d (.error e) d' (.relationship id (.ok rel) :: asked) where
  progress := h.progress
  attributes k a ha := (h.attributes k a ha).imp_right fun ⟨entity, hmem⟩ => ⟨entity, List.mem_cons_of_mem _ hmem⟩
  relationships k rel hrel := (h.relationships k rel hrel).imp_right (List.mem_cons_of_mem _)
  fresh := List.forall_mem_cons.2 ⟨Definitions.not_holds_relationship hnone, h.fresh⟩
  once := h.once_behind hasked
  answered h := by cases h
  held h := by cases h
  size h := by cases h
  error e he := by
    obtain ⟨before, last, rfl, hbefore, hlast⟩ := h.error e he
    exact ⟨.relationship id (.ok rel) :: before, last, rfl, List.forall_mem_cons.2 ⟨rfl, hbefore⟩, hlast⟩

/-- A relationship is answered, and it is kept when the work that it makes necessary is done. -/
theorem behind {id : Uuid} {rel : Relationship} (hnone : d.relationship? id = none) (hnone' : d'.relationship? id = none)
    (h : Fetches d (.ok ()) d' asked) (hasked : ∀ x ∈ asked, x.key ≠ .inr id)
    (hput : Progress d' (d'.withRelationship id rel)) :
    Fetches d (.ok ()) (d'.withRelationship id rel) (.relationship id (.ok rel) :: asked) where
  progress := h.progress.trans hput
  attributes k a ha := (h.attributes k a ha).imp_right fun ⟨entity, hmem⟩ => ⟨entity, List.mem_cons_of_mem _ hmem⟩
  relationships k rel' hk := by
    rw [Definitions.relationship?_withRelationship] at hk
    split at hk
    · rename_i hid
      cases hk
      rw [hid]
      exact .inr List.mem_cons_self
    · exact (h.relationships k rel' hk).imp_right (List.mem_cons_of_mem _)
  fresh := List.forall_mem_cons.2 ⟨Definitions.not_holds_relationship hnone, h.fresh⟩
  once := h.once_behind hasked
  answered _ := List.forall_mem_cons.2 ⟨rfl, h.answered rfl⟩
  held _ := by
    refine List.forall_mem_cons.2 ⟨?_, fun x hx => hput.holds (h.held rfl x hx)⟩
    show ((d'.withRelationship id rel).relationship? id).isSome
    rw [Definitions.relationship?_withRelationship, if_pos rfl, Option.isSome_some]
  size _ := by
    rw [Definitions.size_withRelationship hnone', h.size rfl, List.length_cons, Nat.add_assoc]
  error _ h := by cases h

/-- An attribute that was answered is held. -/
theorem attribute_of_asked (h : Fetches d (.ok ()) d' asked) {entity id : Uuid} {a : Attribute}
    (hx : .attribute entity id (.ok a) ∈ asked) : d'.attribute? id = some a := by
  obtain ⟨b, hb⟩ := Option.isSome_iff_exists.1 (h.held rfl _ hx)
  obtain hold | ⟨entity', hy⟩ := h.attributes id b hb
  · exact absurd (Option.isSome_iff_exists.2 ⟨b, hold⟩) (h.fresh _ hx)
  · cases List.inj_on_of_nodup_map h.once hx hy rfl
    exact hb

/-- A relationship that was answered is held. -/
theorem relationship_of_asked (h : Fetches d (.ok ()) d' asked) {id : Uuid} {rel : Relationship}
    (hx : .relationship id (.ok rel) ∈ asked) : d'.relationship? id = some rel := by
  obtain ⟨rel', hrel⟩ := Option.isSome_iff_exists.1 (h.held rfl _ hx)
  obtain hold | hy := h.relationships id rel' hrel
  · exact absurd (Option.isSome_iff_exists.2 ⟨rel', hold⟩) (h.fresh _ hx)
  · cases List.inj_on_of_nodup_map h.once hx hy rfl
    exact hrel

/-- What was asked for is what has come. -/
theorem mem_keys (h : Fetches d (.ok ()) d' asked) {k : Uuid ⊕ Uuid} :
    k ∈ asked.map Asked.key ↔ d'.Holds k ∧ ¬d.Holds k := by
  constructor
  · intro hk
    obtain ⟨x, hx, rfl⟩ := List.mem_map.1 hk
    exact ⟨h.held rfl x hx, h.fresh x hx⟩
  · rintro ⟨hheld, hnew⟩
    cases k with
    | inl id =>
      obtain ⟨a, ha⟩ := Option.isSome_iff_exists.1 hheld
      obtain hold | ⟨entity, hx⟩ := h.attributes id a ha
      · exact absurd (Option.isSome_iff_exists.2 ⟨a, hold⟩) hnew
      · exact List.mem_map.2 ⟨_, hx, rfl⟩
    | inr id =>
      obtain ⟨rel, hrel⟩ := Option.isSome_iff_exists.1 hheld
      obtain hold | hx := h.relationships id rel hrel
      · exact absurd (Option.isSome_iff_exists.2 ⟨rel, hold⟩) hnew
      · exact List.mem_map.2 ⟨_, hx, rfl⟩

/-- With a relationship that was answered both attributes that it joins by are held. -/
theorem keys_of_asked (h : Fetches d (.ok ()) d' asked) {id : Uuid} {rel : Relationship}
    (hx : .relationship id (.ok rel) ∈ asked) : ∀ p ∈ rel.keys, (d'.attribute? p.2).isSome := by
  obtain hold | ⟨hsource, htarget⟩ := h.progress.brings id rel (h.relationship_of_asked hx)
  · exact absurd (Option.isSome_iff_exists.2 ⟨rel, hold⟩) (h.fresh _ hx)
  · exact List.forall_mem_cons.2 ⟨hsource, List.forall_mem_singleton.2 htarget⟩

end Fetches

/-! ## What is needed -/

/-- A question for a relationship, or for an attribute that one joins by. -/
inductive Asked.Joining (ids : List Uuid) (asked : List Asked) : Asked → Prop
  /-- One of these relationships. -/
  | relationship {id : Uuid} {answer : Except MetadataError Relationship} : id ∈ ids →
    Joining ids asked (.relationship id answer)
  /-- An attribute of one of them that was just answered. -/
  | key {id owner k : Uuid} {rel : Relationship} {answer : Except MetadataError Attribute} : id ∈ ids →
    .relationship id (.ok rel) ∈ asked → (owner, k) ∈ rel.keys → Joining ids asked (.attribute owner k answer)

theorem Asked.Joining.mono {ids ids' : List Uuid} {asked asked' : List Asked} {x : Asked}
    (h : x.Joining ids asked) (hids : ids ⊆ ids') (hasked : asked ⊆ asked') : x.Joining ids' asked' := by
  cases h with
  | relationship hid => exact .relationship (hids hid)
  | key hid hrel hp => exact .key (hids hid) (hasked hrel) hp

/-- **A question that criteria on rows of an entity make necessary.** -/
inductive Asked.Needed (c : Criteria) (entity : Uuid) (d' : Definitions) (asked : List Asked) : Asked → Prop
  /-- For what they join by. -/
  | joining {x : Asked} : x.Joining c.references.relationshipIds asked → Needed c entity d' asked x
  /-- For the attribute of a condition that can be reached, when all relationships are there. No relationship that was
  asked for joins by it. -/
  | condition {owner k : Uuid} {answer : Except MetadataError Attribute} :
    (∀ id ∈ c.references.relationshipIds, (d'.relationship? id).isSome) → (owner, k) ∈ d'.wanted entity c →
      (∀ id rel, .relationship id (.ok rel) ∈ asked → ∀ p ∈ rel.keys, p.2 ≠ k) →
      Needed c entity d' asked (.attribute owner k answer)

/-! ## Fetching -/

namespace Prefetch

variable {σ α β : Type}

/-- Begun with these definitions, work with a record ends in a result and in definitions as described, and it notes
questions as described behind those noted before, whatever the client answers. -/
def Notes (work : Prefetch (σ × List Asked) α) (d : Definitions)
    (post : Except MetadataError α → Definitions → List Asked → Prop) : Prop :=
  ∀ s before, ∃ r d' s' asked, work.run (d, s, before) = (r, d', s', before ++ asked) ∧ post r d' asked

namespace Notes

variable {d : Definitions} {post post' : Except MetadataError α → Definitions → List Asked → Prop}

theorem mono {work : Prefetch (σ × List Asked) α} (h : Notes work d post)
    (hpost : ∀ r d' asked, post r d' asked → post' r d' asked) : Notes work d post' := by
  intro s before
  obtain ⟨r, d', s', asked, hrun, hp⟩ := h s before
  exact ⟨r, d', s', asked, hrun, hpost r d' asked hp⟩

/-- What is known of how work ends is known of it with a record. -/
theorem and_leads {work : Prefetch (σ × List Asked) α} (h : Notes work d post)
    {ends : Except MetadataError α → Definitions → Prop} (hends : Leads work d ends) :
    Notes work d fun r d' asked => post r d' asked ∧ ends r d' := by
  intro s before
  obtain ⟨r, d', s', asked, hrun, hp⟩ := h s before
  have hend := hends (s, before)
  rw [hrun] at hend
  exact ⟨r, d', s', asked, hrun, hp, hend⟩

theorem pure {a : α} (h : post (.ok a) d []) : Notes (σ := σ) (Pure.pure a) d post :=
  fun s before => ⟨.ok a, d, s, [], by rw [List.append_nil]; rfl, h⟩

/-- Work goes on where other work has ended, unless that has failed. -/
theorem bind {x : Prefetch (σ × List Asked) α} {f : α → Prefetch (σ × List Asked) β}
    {post : Except MetadataError β → Definitions → List Asked → Prop}
    {mid : Except MetadataError α → Definitions → List Asked → Prop} (hx : Notes x d mid)
    (hok : ∀ a d₁ asked₁, mid (.ok a) d₁ asked₁ → Notes (f a) d₁ fun r d' asked => post r d' (asked₁ ++ asked))
    (herror : ∀ e d₁ asked₁, mid (.error e) d₁ asked₁ → post (.error e) d₁ asked₁) : Notes (x >>= f) d post := by
  intro s before
  obtain ⟨r, d₁, s₁, asked₁, hrun, hmid⟩ := hx s before
  have hbind : (x >>= f).run (d, s, before) = ExceptT.bindCont f r (d₁, s₁, before ++ asked₁) :=
    congrArg (fun p : Except MetadataError α × Definitions × σ × List Asked => ExceptT.bindCont f p.1 p.2) hrun
  cases r with
  | error e => exact ⟨.error e, d₁, s₁, asked₁, hbind, herror e d₁ asked₁ hmid⟩
  | ok a =>
    obtain ⟨r, d', s', asked, hf, hp⟩ := hok a d₁ asked₁ hmid s₁ (before ++ asked₁)
    refine ⟨r, d', s', asked₁ ++ asked, ?_, hp⟩
    rw [← List.append_assoc]
    exact hbind.trans hf

/-- A question is noted with its answer, and leaves the definitions as they are. -/
theorem ask {note : Except MetadataError α → Asked} {q : Lookup σ α} :
    Notes (Prefetch.ask (MetadataClient.noting note q)) d fun answer d' asked => d' = d ∧ asked = [note answer] :=
  fun s _ => ⟨(q.run s).1, d, (q.run s).2, [note (q.run s).1], rfl, rfl, rfl⟩

theorem definitions_bind {f : Definitions → Prefetch (σ × List Asked) α} (h : Notes (f d) d post) :
    Notes (definitions >>= f) d post := h

theorem put {f : Definitions → Definitions} {post : Except MetadataError Unit → Definitions → List Asked → Prop}
    (h : post (.ok ()) (f d) []) : Notes (σ := σ) (Prefetch.put f) d post :=
  fun s before => ⟨.ok (), f d, s, [], by rw [List.append_nil]; rfl, h⟩

end Notes

/-- Nothing but these attributes was asked for, each with the entity that stands with it. -/
def AsksFor (wanted : List (Uuid × Uuid)) (asked : List Asked) : Prop :=
  ∀ x ∈ asked, ∃ p ∈ wanted, ∃ answer, x = .attribute p.1 p.2 answer

variable (client : MetadataClient σ)

theorem notes_heldAttribute (entity id : Uuid) (d : Definitions) :
    Notes (heldAttribute client.recorded entity id) d fun r d' asked =>
      Fetches d r d' asked ∧ AsksFor [(entity, id)] asked := by
  have hfor (answer : Except MetadataError Attribute) : AsksFor [(entity, id)] [.attribute entity id answer] :=
    List.forall_mem_singleton.2 ⟨_, List.mem_singleton_self _, answer, rfl⟩
  refine Notes.definitions_bind ?_
  split
  · exact Notes.pure ⟨.nothing d, List.forall_mem_nil _⟩
  · rename_i hid
    have hnone : d.attribute? id = none := Option.not_isSome_iff_eq_none.1 hid
    refine Notes.bind Notes.ask ?_ ?_
    · rintro a _ _ ⟨rfl, rfl⟩
      exact Notes.put ⟨.keeping hnone entity a, hfor (.ok a)⟩
    · rintro e _ _ ⟨rfl, rfl⟩
      exact ⟨.failure (Definitions.not_holds_attribute hnone) rfl, hfor (.error e)⟩

theorem notes_attributes : ∀ (wanted : List (Uuid × Uuid)) (d : Definitions),
    Notes (attributes client.recorded wanted) d fun r d' asked => Fetches d r d' asked ∧ AsksFor wanted asked
  | [], d => Notes.pure ⟨.nothing d, List.forall_mem_nil _⟩
  | (entity, id) :: rest, d => by
    have hfirst {asked : List Asked} (h : AsksFor [(entity, id)] asked) : AsksFor ((entity, id) :: rest) asked :=
      fun x hx => (h x hx).imp fun p hp => ⟨List.mem_cons.2 (.inl (List.mem_singleton.1 hp.1)), hp.2⟩
    refine Notes.bind (notes_heldAttribute client entity id d) ?_ ?_
    · rintro _ d₁ asked₁ ⟨h₁, hasked₁⟩
      refine (notes_attributes rest d₁).mono ?_
      rintro r d' asked ⟨h, hasked⟩
      refine ⟨h₁.append h, List.forall_mem_append.2 ⟨hfirst hasked₁, fun x hx => ?_⟩⟩
      exact (hasked x hx).imp fun p hp => ⟨List.mem_cons_of_mem _ hp.1, hp.2⟩
    · rintro e d₁ asked₁ ⟨h₁, hasked₁⟩
      exact ⟨h₁, hfirst hasked₁⟩

/-- The attributes of a relationship are asked for behind it. -/
theorem joining_of_asksFor {id : Uuid} {rel : Relationship} {asked : List Asked} (hasked : AsksFor rel.keys asked) :
    ∀ x ∈ .relationship id (.ok rel) :: asked, x.Joining [id] (.relationship id (.ok rel) :: asked) := by
  refine List.forall_mem_cons.2 ⟨.relationship (List.mem_singleton_self _), fun x hx => ?_⟩
  obtain ⟨p, hp, answer, rfl⟩ := hasked x hx
  exact .key (List.mem_singleton_self _) List.mem_cons_self hp

theorem AsksFor.key_ne {wanted : List (Uuid × Uuid)} {asked : List Asked} (hasked : AsksFor wanted asked) (id : Uuid) :
    ∀ x ∈ asked, x.key ≠ .inr id := by
  intro x hx
  obtain ⟨p, _, answer, rfl⟩ := hasked x hx
  exact nofun

theorem AsksFor.append {wanted wanted' : List (Uuid × Uuid)} {asked asked' : List Asked} (h : AsksFor wanted asked)
    (h' : AsksFor wanted' asked') : AsksFor (wanted ++ wanted') (asked ++ asked') := by
  refine List.forall_mem_append.2 ⟨fun x hx => ?_, fun x hx => ?_⟩
  · exact (h x hx).imp fun p hp => ⟨List.mem_append_left _ hp.1, hp.2⟩
  · exact (h' x hx).imp fun p hp => ⟨List.mem_append_right _ hp.1, hp.2⟩

theorem notes_heldRelationship (id : Uuid) (d : Definitions) :
    Notes (heldRelationship client.recorded id) d fun r d' asked =>
      Fetches d r d' asked ∧ ∀ x ∈ asked, x.Joining [id] asked := by
  refine Notes.definitions_bind ?_
  split
  · exact Notes.pure ⟨.nothing d, List.forall_mem_nil _⟩
  rename_i hheld
  have hnone : d.relationship? id = none := Option.not_isSome_iff_eq_none.1 hheld
  refine Notes.bind Notes.ask ?_ ?_
  · rintro rel d₁ _ ⟨rfl, rfl⟩
    refine Notes.bind ((notes_heldAttribute client rel.sourceEntityId rel.sourceAttributeId d₁).and_leads
      (leads_heldAttribute _ _ _ d₁)) ?_ ?_
    · rintro _ d₂ asked₂ ⟨⟨h₂, hasked₂⟩, hgets₂⟩
      refine Notes.bind ((notes_heldAttribute client rel.targetEntityId rel.targetAttributeId d₂).and_leads
        (leads_heldAttribute _ _ _ d₂)) ?_ ?_
      · rintro _ d₃ asked₃ ⟨⟨h₃, hasked₃⟩, hgets₃⟩
        have hnone₃ : d₃.relationship? id = none := by
          rw [Definitions.relationship?, hgets₃.relationships, hgets₂.relationships]
          exact hnone
        have hsource := hgets₃.progress.holdsAttribute (hgets₂.held rfl _ List.mem_cons_self)
        have hput := Definitions.progress_withRelationship hnone₃ hsource (hgets₃.held rfl _ List.mem_cons_self)
        have hasked : AsksFor rel.keys (asked₂ ++ asked₃) := hasked₂.append hasked₃
        refine Notes.put ?_
        rw [List.append_nil]
        exact ⟨(h₂.append h₃).behind hnone hnone₃ (hasked.key_ne id) hput, joining_of_asksFor hasked⟩
      · rintro e d₃ asked₃ ⟨⟨h₃, hasked₃⟩, -⟩
        have hasked : AsksFor rel.keys (asked₂ ++ asked₃) := hasked₂.append hasked₃
        exact ⟨(h₂.append h₃).behind_failure hnone (hasked.key_ne id), joining_of_asksFor hasked⟩
    · rintro e d₂ asked₂ ⟨⟨h₂, hasked₂⟩, -⟩
      have hasked : AsksFor rel.keys asked₂ := by
        have hrest : AsksFor [(rel.targetEntityId, rel.targetAttributeId)] [] := List.forall_mem_nil _
        have := hasked₂.append hrest
        rwa [List.append_nil] at this
      exact ⟨h₂.behind_failure hnone (hasked.key_ne id), joining_of_asksFor hasked⟩
  · rintro e _ _ ⟨rfl, rfl⟩
    exact ⟨.failure (Definitions.not_holds_relationship hnone) rfl,
      List.forall_mem_singleton.2 (.relationship (List.mem_singleton_self _))⟩

theorem notes_relationships : ∀ (ids : List Uuid) (d : Definitions),
    Notes (relationships client.recorded ids) d fun r d' asked =>
      Fetches d r d' asked ∧ ∀ x ∈ asked, x.Joining ids asked
  | [], d => Notes.pure ⟨.nothing d, List.forall_mem_nil _⟩
  | id :: ids, d => by
    have hfirst : [id] ⊆ id :: ids := List.cons_subset_cons _ (List.nil_subset _)
    refine Notes.bind (notes_heldRelationship client id d) ?_ ?_
    · rintro _ d₁ asked₁ ⟨h₁, hasked₁⟩
      refine (notes_relationships ids d₁).mono ?_
      rintro r d' asked ⟨h, hasked⟩
      refine ⟨h₁.append h, List.forall_mem_append.2 ⟨fun x hx => ?_, fun x hx => ?_⟩⟩
      · exact (hasked₁ x hx).mono hfirst (List.subset_append_left _ _)
      · exact (hasked x hx).mono (List.subset_cons_self _ _) (List.subset_append_right _ _)
    · rintro e d₁ asked₁ ⟨h₁, hasked₁⟩
      exact ⟨h₁, fun x hx => (hasked₁ x hx).mono hfirst (List.Subset.refl _)⟩

/-- **What one call asks for**, and what it changes by it. -/
theorem notes_all (c : Criteria) (entity : Uuid) (d : Definitions) :
    Notes (all client.recorded c entity) d fun r d' asked =>
      Fetches d r d' asked ∧ ∀ x ∈ asked, x.Needed c entity d' asked := by
  refine Notes.bind ((notes_relationships client c.references.relationshipIds d).and_leads
    (leads_relationships _ _ d)) ?_ ?_
  · rintro _ d₁ joins ⟨⟨h₁, hjoins⟩, -, hids⟩
    refine Notes.definitions_bind (((notes_attributes client (d₁.wanted entity c) d₁).and_leads
      (leads_attributes _ _ d₁)).mono ?_)
    rintro r d' rest ⟨⟨h, hrest⟩, hgets⟩
    refine ⟨h₁.append h, List.forall_mem_append.2 ⟨fun x hx => ?_, fun x hx => ?_⟩⟩
    · exact .joining ((hjoins x hx).mono (List.Subset.refl _) (List.subset_append_left _ _))
    · have hfresh := h.fresh x hx
      obtain ⟨p, hp, answer, rfl⟩ := hrest x hx
      refine .condition (fun id hid => h.progress.holdsRelationship (hids rfl id hid)) ?_ fun id rel hrel q hq hsame => ?_
      · rwa [Definitions.wanted_congr hgets.relationship?_eq]
      · -- a relationship was asked for before, and with it the attributes that it joins by
        have hrel₁ : .relationship id (.ok rel) ∈ joins := by
          refine (List.mem_append.1 hrel).resolve_right fun hmem => ?_
          exact hrest.key_ne id _ hmem rfl
        exact hfresh (hsame ▸ h₁.keys_of_asked hrel₁ q hq)
  · rintro e d₁ joins ⟨⟨h₁, hjoins⟩, -⟩
    exact ⟨h₁, fun x hx => .joining (hjoins x hx)⟩

/-! ## Fetching again -/

section Again

variable {client} {d : Definitions}

theorem heldAttribute_of_held {id : Uuid} (h : (d.attribute? id).isSome) (entity : Uuid) (s : σ) :
    (heldAttribute client entity id).run (d, s) = (.ok (), d, s) := by
  have hid : d.attributes.contains id = true := h
  show (if d.attributes.contains id then (Pure.pure () : Prefetch σ Unit) else _).run (d, s) = _
  rw [if_pos hid]
  rfl

/-- Work behind work that changes nothing. -/
theorem run_andThen_unchanged {α : Type} {x : Prefetch σ Unit} {f : Unit → Prefetch σ α} {s : Definitions × σ}
    (h : x.run s = (.ok (), s)) : (x >>= f).run s = (f ()).run s := by
  show ExceptT.bindCont f (x.run s).1 (x.run s).2 = _
  rw [h]
  rfl

theorem attributes_of_held (s : σ) : ∀ {wanted : List (Uuid × Uuid)}, (∀ p ∈ wanted, (d.attribute? p.2).isSome) →
    (attributes client wanted).run (d, s) = (.ok (), d, s)
  | [], _ => rfl
  | (entity, id) :: rest, h => by
    obtain ⟨hfirst, hrest⟩ := List.forall_mem_cons.1 h
    rw [attributes, run_andThen_unchanged (heldAttribute_of_held hfirst entity s)]
    exact attributes_of_held s hrest

theorem relationships_of_held (s : σ) : ∀ {ids : List Uuid}, (∀ id ∈ ids, (d.relationship? id).isSome) →
    (relationships client ids).run (d, s) = (.ok (), d, s)
  | [], _ => rfl
  | id :: ids, h => by
    obtain ⟨hfirst, hids⟩ := List.forall_mem_cons.1 h
    have hheld : d.relationships.contains id = true := hfirst
    have hskip : (heldRelationship client id).run (d, s) = (.ok (), d, s) := by
      show (if d.relationships.contains id then (Pure.pure () : Prefetch σ Unit) else _).run (d, s) = _
      rw [if_pos hheld]
      rfl
    rw [relationships, run_andThen_unchanged hskip]
    exact relationships_of_held s hids

/-- Where everything is held, no client is asked anything. -/
theorem all_of_held {c : Criteria} {entity : Uuid} (hrelationships : ∀ id ∈ c.references.relationshipIds,
    (d.relationship? id).isSome) (hattributes : ∀ p ∈ d.wanted entity c, (d.attribute? p.2).isSome) (s : σ) :
    (all client c entity).run (d, s) = (.ok (), d, s) := by
  rw [all, run_andThen_unchanged (relationships_of_held s hrelationships)]
  exact attributes_of_held s hattributes

end Again

end Prefetch

/-- **Fetching is incremental, asks for as little as it can, and is done once.** Whatever was held before and whatever the
client answers, with the questions that it was asked noted beside it: what was held is held unchanged, what comes is what
was answered for it, nothing that was held is asked for and nothing twice, and if it fails, the error is the last answer
and no other answer is an error (`Fetches`); and nothing is asked for without need. If all goes well, exactly those
definitions come that were asked for, one with each question, and another call for the same asks for nothing and changes
nothing, whichever client it is made with. -/
theorem prefetch_minimal {σ : Type} (client : MetadataClient σ) (c : Criteria) (entity : Uuid) (d : Definitions) (s : σ) :
    ∃ r d' s' asked, (Prefetch.all client c entity).run (d, s) = (r, d', s') ∧
      (Prefetch.all client.recorded c entity).run (d, s, []) = (r, d', s', asked) ∧
      Fetches d r d' asked ∧ (∀ x ∈ asked, x.Needed c entity d' asked) ∧
      (r = .ok () → (∀ k, k ∈ asked.map Asked.key ↔ d'.Holds k ∧ ¬d.Holds k) ∧ d'.size = d.size + asked.length ∧
        ∀ (τ : Type) (client' : MetadataClient τ) (t : τ),
          (Prefetch.all client' c entity).run (d', t) = (.ok (), d', t)) := by
  obtain ⟨r, d', s', asked, hrun, h, hneeded⟩ := Prefetch.notes_all client c entity d s []
  have hplain : (Prefetch.all client c entity).run (d, s) = (r, d', s') := by
    obtain ⟨hanswer, hfetched, hstate⟩ := Prefetch.agree_all client.agrees_recorded c entity (d, s, []) (d, s) ⟨rfl, rfl⟩
    rw [show (Prefetch.all client.recorded c entity).run.run (d, s, []) = (r, d', s', asked) from hrun]
      at hanswer hfetched hstate
    exact Prod.ext hanswer.symm (Prod.ext hfetched.symm hstate.symm)
  refine ⟨r, d', s', asked, hplain, hrun, h, hneeded, fun hr => ?_⟩
  have hends := Prefetch.leads_all client c entity d s
  rw [hplain] at hends
  obtain ⟨hrelationships, hattributes⟩ := hends.2 hr
  subst hr
  exact ⟨fun k => h.mem_keys, h.size rfl, fun τ client' t => Prefetch.all_of_held hrelationships hattributes t⟩

/-- The orders of a shop, their keys and then the two attributes of conditions are asked for, and nothing the second
time. -/
theorem prefetch_minimal_shop :
    let c := Shop.criteria "ann" ["10"]
    ∃ d' s' asked, (Prefetch.all Registry.client.recorded c (Shop.id 1)).run (.empty, Shop.registry, []) =
      (.ok (), d', s', asked) ∧
      asked.map Asked.key = [.inr (Shop.id 7), .inl (Shop.id 4), .inl (Shop.id 5), .inl (Shop.id 3), .inl (Shop.id 6)] ∧
      d'.size = 5 ∧ (Prefetch.all Registry.client.recorded c (Shop.id 1)).run (d', s', asked) = (.ok (), d', s', asked) := by
  intro c
  obtain ⟨r, d', s', asked, -, hrun, -, -, hok⟩ := prefetch_minimal Registry.client c (Shop.id 1) .empty Shop.registry
  have hr : ((Prefetch.all Registry.client.recorded c (Shop.id 1)).run (.empty, Shop.registry, [])).1 = .ok () := rfl
  have hkeys : ((Prefetch.all Registry.client.recorded c (Shop.id 1)).run (.empty, Shop.registry, [])).2.2.2.map
      Asked.key = [.inr (Shop.id 7), .inl (Shop.id 4), .inl (Shop.id 5), .inl (Shop.id 3), .inl (Shop.id 6)] := rfl
  rw [hrun] at hr hkeys
  obtain rfl : r = .ok () := hr
  obtain ⟨-, hsize, hagain⟩ := hok rfl
  have hlength : asked.length = 5 := by
    rw [← List.length_map Asked.key, show asked.map Asked.key = _ from hkeys]
    rfl
  exact ⟨d', s', asked, hrun, hkeys, hsize.trans (by rw [hlength]; rfl), hagain _ _ _⟩

end Cohort
