import SchemaWeaver.Proofs.Traversal.Aggregation

/-!
# Fields and cases

A type definition and its fields or cases share one outcome. What is offered to the definition goes
to the slot of the type, and what is offered to its members goes to the slot of fields or cases,
under the member's name; members of one name share what is offered to any of them.
-/

namespace SchemaWeaver

theorem OrderedMap.eq_empty_of_keys {α : Type} {m : OrderedMap α} (h : m.keys = []) : m = ∅ := by
  obtain ⟨entries, nodup⟩ := m
  cases List.map_eq_nil_iff.mp h
  rfl

theorem Slot.ne_type_of_isMember {slot : Slot} (h : slot.isMember = true) : slot ≠ .type := by
  rintro rfl
  cases h

/-- What a place holds when contributions have been offered to it, one after another. Offers that
cannot be merged are left out; among offers of the place's own shape there are none. -/
structure Contribution.Merged (shape : Shape) (held? : Option Contribution)
    (offered : List Contribution) : Prop where
  eq_mergeAll : held? = mergeAll offered
  eq_none_iff : held? = none ↔ offered = []
  concatenates : (∀ c ∈ offered, c.shape = shape) → ∀ held, held? = some held →
    held.shape = shape ∧ ∀ list, held.fragments list = offered.flatMap fun c => c.fragments list

theorem Contribution.merged_mergeAll (shape : Shape) (offered : List Contribution) :
    Merged shape (mergeAll offered) offered where
  eq_mergeAll := rfl
  eq_none_iff := mergeAll_eq_none_iff
  concatenates same held h :=
    ⟨(mergeAll_of_shape_eq same held h).1, (mergeAll_of_shape_eq same held h).2.1⟩

/-- What a map holds when contributions have been offered to members, one after another: under each
name the contributions to members of this name, and the names in the order of the first member that
was offered one. -/
structure MergedByName (shape : Shape) (held : OrderedMap Contribution) (offers : List Offer) :
    Prop where
  merged : ∀ name, Contribution.Merged shape (held.find? name)
    ((offers.filter (·.name = name)).map Offer.value)
  keys_eq : held.keys = (offers.map Offer.name).eraseDups
  nodup_keys : held.keys.Nodup

namespace Offer

variable {slot : Slot} {offers : List Offer}

theorem valuesFor_append (slot : Slot) (name : String) (offers more : List Offer) :
    valuesFor slot name (offers ++ more) =
      valuesFor slot name offers ++ valuesFor slot name more := by
  rw [valuesFor, List.filter_append, List.map_append]
  rfl

theorem namesIn_append (slot : Slot) (offers more : List Offer) :
    namesIn slot (offers ++ more) = namesIn slot offers ++ namesIn slot more := by
  rw [namesIn, List.filter_append, List.map_append]
  rfl

theorem valuesFor_of_ne (name : String) (h : ∀ offer ∈ offers, offer.slot ≠ slot) :
    valuesFor slot name offers = [] := by
  rw [valuesFor, List.map_eq_nil_iff, List.filter_eq_nil_iff]
  intro offer member
  simp [GoesTo, h offer member]

theorem namesIn_of_ne (h : ∀ offer ∈ offers, offer.slot ≠ slot) : namesIn slot offers = [] := by
  rw [namesIn, List.map_eq_nil_iff, List.filter_eq_nil_iff]
  intro offer member
  simp [h offer member]

theorem valuesFor_of_eq (name : String) (h : ∀ offer ∈ offers, offer.slot = slot) :
    valuesFor slot name offers =
      (offers.filter fun offer => slot.isMember = true → offer.name = name).map value := by
  rw [valuesFor]
  refine congrArg _ (List.filter_congr ?_)
  intro offer member
  simp [GoesTo, h offer member]

theorem namesIn_of_eq (h : ∀ offer ∈ offers, offer.slot = slot) :
    namesIn slot offers = offers.map name := by
  rw [namesIn, List.filter_eq_self.mpr]
  intro offer member
  simp [h offer member]

end Offer

namespace Outcome.Collects

variable {o : Outcome} {own ofMembers : List Offer} {slot : Slot} {slot? : Option Slot}

/-- Offers to a type definition and to its members go nowhere else. -/
theorem elsewhere (slot : Slot) (toType : ∀ offer ∈ own, offer.slot = .type)
    (toMember : ∀ offer ∈ ofMembers, slot? = some offer.slot) (ne : slot ≠ .type)
    (other : slot? ≠ some slot) : ∀ offer ∈ own ++ ofMembers, offer.slot ≠ slot := by
  intro offer member same
  rcases List.mem_append.mp member with atType | atMember
  · exact ne (same.symm.trans (toType offer atType))
  · exact other (same ▸ toMember offer atMember)

/-- A place that no offer goes to stays empty. -/
theorem at?_eq_none {offers : List Offer} (h : o.Collects offers) (name : String)
    (toOther : ∀ offer ∈ offers, offer.slot ≠ slot) : o.at? slot name = none := by
  rw [h.at?_eq, Offer.valuesFor_of_ne name toOther]
  rfl

/-- A slot of members that no offer goes to stays empty. -/
theorem members_eq_empty {offers : List Offer} (h : o.Collects offers)
    (isMember : slot.isMember = true) (toOther : ∀ offer ∈ offers, offer.slot ≠ slot) :
    o.members slot = ∅ := by
  refine OrderedMap.eq_empty_of_keys ?_
  rw [h.keys_eq slot isMember, Offer.namesIn_of_ne toOther]
  rfl

/-- The slot of the type holds the offers to the type definition. -/
theorem merged_type (h : o.Collects (own ++ ofMembers))
    (toType : ∀ offer ∈ own, offer.slot = .type)
    (toMember : ∀ offer ∈ ofMembers, offer.slot.isMember = true) (shape : Shape) :
    Contribution.Merged shape o.ofType (own.map Offer.value) := by
  have toOther : ∀ offer ∈ ofMembers, offer.slot ≠ .type :=
    fun offer member => Slot.ne_type_of_isMember (toMember offer member)
  have held : o.ofType = _ := h.at?_eq .type ""
  rw [Offer.valuesFor_append, Offer.valuesFor_of_ne "" toOther, List.append_nil,
    Offer.valuesFor_of_eq "" toType] at held
  simp only [Slot.isMember, Bool.false_eq_true, false_imp_iff, decide_true,
    List.filter_true] at held
  rw [held]
  exact Contribution.merged_mergeAll shape _

/-- The slot of the members holds the offers to them under their names. -/
theorem merged_members (h : o.Collects (own ++ ofMembers)) (isMember : slot.isMember = true)
    (toType : ∀ offer ∈ own, offer.slot = .type) (toSlot : ∀ offer ∈ ofMembers, offer.slot = slot)
    (shape : Shape) : MergedByName shape (o.members slot) ofMembers := by
  have ownElsewhere : ∀ offer ∈ own, offer.slot ≠ slot := fun offer member same =>
    Slot.ne_type_of_isMember isMember (same.symm.trans (toType offer member))
  constructor
  · intro name
    rw [← o.at?_eq_find? isMember, h.at?_eq, Offer.valuesFor_append,
      Offer.valuesFor_of_ne name ownElsewhere, List.nil_append, Offer.valuesFor_of_eq name toSlot]
    simp only [isMember, forall_const]
    exact Contribution.merged_mergeAll shape _
  · rw [h.keys_eq slot isMember, Offer.namesIn_append, Offer.namesIn_of_ne ownElsewhere,
      List.nil_append, Offer.namesIn_of_eq toSlot, distinct_eq_eraseDups]
  · exact (o.members slot).keys_nodup

end Outcome.Collects

namespace Registry

variable {σ : Type}

theorem node_of_mem_dueAt {r : Registry σ} {stop : Stop} {d : Dispatch} (h : d ∈ r.dueAt stop) :
    d.call.node = stop.node := by
  obtain ⟨target, -, rfl⟩ := List.mem_map.mp h
  rfl

/-- The calls that are due at a type definition itself. -/
def ownCalls (r : Registry σ) (t : TypeDefinition) : List Dispatch := r.dueAt ⟨.type t, none⟩

/-- The calls that are due at the members of a type definition, in the order of the members. -/
def memberCalls (r : Registry σ) (t : TypeDefinition) : List Dispatch :=
  (Node.type t).memberStops.flatMap r.dueAt

theorem due_type (r : Registry σ) (t : TypeDefinition) :
    r.due (.type t) = r.ownCalls t ++ r.memberCalls t :=
  List.flatMap_cons

theorem slot_of_ownCalls (r : Registry σ) (t : TypeDefinition) (state : σ) :
    ∀ offer ∈ ((r.offers (r.ownCalls t)).run state).1, offer.slot = .type := by
  intro offer member
  have node : offer.dispatch.call.node = .type t := node_of_mem_dueAt (mem_offers member).1
  rw [Offer.slot, node]
  exact Slot.ofKind_body t.body

theorem slot_of_memberCalls (r : Registry σ) (t : TypeDefinition) (state : σ) :
    ∀ offer ∈ ((r.offers (r.memberCalls t)).run state).1,
      t.body.memberSlot? = some offer.slot := by
  intro offer member
  obtain ⟨stop, isStop, due⟩ := List.mem_flatMap.mp (mem_offers member).1
  have same : offer.dispatch.call.node = stop.node := node_of_mem_dueAt due
  rw [Offer.slot, same]
  exact t.memberSlot?_eq (Node.of_mem_memberStops isStop).1

end Registry

namespace Service

variable {σ : Type}

theorem foldlM_perform_stops (s : Service σ) {stops : List Stop}
    (placed : ∀ stop ∈ stops, stop.lacksIndex = false) (o : Outcome) :
    (stops.flatMap Stop.steps).foldlM s.perform o =
      stops.foldlM (fun o stop => s.processNode stop o) o := by
  induction stops generalizing o with
  | nil => rfl
  | cons stop stops ih =>
    have first : s.processNode stop o = stop.steps.foldlM s.perform o := by
      rw [processNode, placed stop (List.mem_cons_self ..)]
      rfl
    rw [List.flatMap_cons, List.foldlM_append, List.foldlM_cons, first]
    exact congrArg _ (funext fun o => ih (fun stop member =>
      placed stop (List.mem_cons_of_mem _ member)) o)

/-- The visit to a type definition processes the definition and then its members, one after
another. -/
theorem visitSite_eq_processNode (s : Service σ) (t : TypeDefinition) :
    s.visitSite t.site = (do
      let o ← s.processNode ⟨.type t, none⟩ (s.begin (.type t))
      (Node.type t).memberStops.foldlM (fun o stop => s.processNode stop o) o) := by
  have placed : ∀ stop ∈ (Node.type t).stops, stop.lacksIndex = false := by
    refine List.forall_mem_cons.mpr ⟨?_, ?_⟩
    · have slot : Stop.slot ⟨.type t, none⟩ = .type := Slot.ofKind_body t.body
      rw [Stop.lacksIndex, slot]
      rfl
    · intro stop member
      rw [Stop.lacksIndex, Option.isNone_eq_false_iff.mpr (Node.of_mem_memberStops member).2,
        Bool.and_false]
  rw [t.site_eq]
  exact s.foldlM_perform_stops placed (s.begin (.type t))

/-- The visit to a type definition collects the offers to the definition and then those to its
members. -/
theorem visitSite_collects (s : Service σ) (t : TypeDefinition) (session : Session σ) :
    ∃ o final own between ofMembers, (s.visitSite t.site).run.run session = (.ok o, final) ∧
      (s.registry.offers (s.registry.ownCalls t)).run session.state = (own, between) ∧
      (s.registry.offers (s.registry.memberCalls t)).run between = (ofMembers, final.state) ∧
      o.Collects (own ++ ofMembers) := by
  have refines : Engine.Refines (s.visitSite t.site) (s.visit (.type t)) :=
    t.site_eq ▸ s.visitSite_refines (Node.type t).site
  obtain ⟨log, run⟩ := refines session
  obtain ⟨state, collects⟩ := s.visit_collects (.type t) session.state
  rw [s.registry.due_type, Registry.offers_append] at state collects
  exact ⟨_, _, _, _, _, run, rfl, Prod.ext rfl state.symm, collects⟩

/-- The outcome of a type definition. The slot of the type holds what is offered to the calls that
are due at the definition itself, and the slot of fields or cases what is offered to the calls that
are due at its members, under their names; nothing else is held. The members are called in the order
of their declaration, after the definition. -/
theorem visitSite_aggregates (s : Service σ) (t : TypeDefinition) (session : Session σ) :
    ∃ o final own between ofMembers, (s.visitSite t.site).run.run session = (.ok o, final) ∧
      (s.registry.offers (s.registry.ownCalls t)).run session.state = (own, between) ∧
      (s.registry.offers (s.registry.memberCalls t)).run between = (ofMembers, final.state) ∧
      Contribution.Merged (s.registry.family.get .type) o.ofType (own.map Offer.value) ∧
      (match t.body with
        | .record _ =>
          MergedByName (s.registry.family.get .field) o.ofFields ofMembers ∧ o.ofCases = ∅
        | .variant _ | .enum _ =>
          MergedByName (s.registry.family.get .case) o.ofCases ofMembers ∧ o.ofFields = ∅
        | .flags _ | .resource _ => o.ofFields = ∅ ∧ o.ofCases = ∅) ∧
      o.ofFunction = none ∧ o.ofModule = none := by
  obtain ⟨o, final, own, between, ofMembers, run, asked, askedMembers, collects⟩ :=
    s.visitSite_collects t session
  have toType : ∀ offer ∈ own, offer.slot = .type := by
    have slots := s.registry.slot_of_ownCalls t session.state
    rwa [asked] at slots
  have toMember : ∀ offer ∈ ofMembers, t.body.memberSlot? = some offer.slot := by
    have slots := s.registry.slot_of_memberCalls t between
    rwa [askedMembers] at slots
  -- A slot other than that of the type is filled by the members or not at all.
  have toOther (slot : Slot) := Outcome.Collects.elsewhere slot toType toMember
  have filled (slot : Slot) (fills : t.body.memberSlot? = some slot) :
      MergedByName (s.registry.family.get slot) (o.members slot) ofMembers := by
    have isMember : slot.isMember = true := TypeBody.isMember_of_memberSlot? fills
    apply collects.merged_members isMember toType
    intro offer member
    exact Option.some.inj ((toMember offer member).symm.trans fills)
  have empty (slot : Slot) (isMember : slot.isMember = true)
      (other : t.body.memberSlot? ≠ some slot) : o.members slot = ∅ :=
    collects.members_eq_empty isMember (toOther slot (Slot.ne_type_of_isMember isMember) other)
  have unfilled (slot : Slot) (ne : slot ≠ .type) (noMember : slot.isMember ≠ true) :
      o.at? slot "" = none :=
    collects.at?_eq_none "" (toOther slot ne (noMember ∘ TypeBody.isMember_of_memberSlot?))
  refine ⟨o, final, own, between, ofMembers, run, asked, askedMembers,
    collects.merged_type toType (fun offer member =>
      TypeBody.isMember_of_memberSlot? (toMember offer member)) _, ?_,
    unfilled .function (by decide) (by decide), unfilled .module (by decide) (by decide)⟩
  cases body : t.body with
  | record fields =>
    rw [body] at filled empty
    exact ⟨filled .field rfl, empty .case rfl nofun⟩
  | variant cases =>
    rw [body] at filled empty
    exact ⟨filled .case rfl, empty .field rfl nofun⟩
  | enum cases =>
    rw [body] at filled empty
    exact ⟨filled .case rfl, empty .field rfl nofun⟩
  | flags names =>
    rw [body] at empty
    exact ⟨empty .field rfl nofun, empty .case rfl nofun⟩
  | resource methods =>
    rw [body] at empty
    exact ⟨empty .field rfl nofun, empty .case rfl nofun⟩

/-- A service with two visitors that mark fields. -/
def marking : Service Unit :=
  let mark (target : String) : Visitor Unit :=
    .ofFunction "MarkVisitor" target .rust [.field] fun payload node =>
      match node with
      | .field _ => some (.ofLists .rustField [("attributes", payload.values)])
      | _ => none
  .start ⟨.rust, .refuse, .ofList [("old", mark "old"), ("new", mark "new")], false⟩ .defaults none

/-- A record with two fields of the same name. -/
def twins : TypeDefinition :=
  let field (name : String) (directive : Directive) : RecordField :=
    ⟨⟨name, none, [directive]⟩, "u8"⟩
  ⟨⟨"twins", none, []⟩, 0, .record [field "x" ⟨"new", .text "a", by decide⟩,
    field "y" ⟨"old", .text "b", by decide⟩, field "x" ⟨"old", .text "c", by decide⟩]⟩

/-- Two fields of one name share what is contributed to them. -/
theorem visitSite_aggregates_twins : ∃ o final,
    (marking.visitSite twins.site).run.run ⟨(), [], []⟩ = (.ok o, final) ∧
      o.ofType = none ∧ o.ofFields.keys = ["x", "y"] ∧
      (∃ held, o.ofFields.find? "x" = some held ∧ held.fragments "attributes" = ["a", "c"]) ∧
      o.ofFields.find? "z" = none ∧ o.ofCases = ∅ := by
  obtain ⟨o, final, own, ⟨⟩, ofMembers, run, asked, askedMembers, ofType, ⟨fields, cases⟩, -⟩ :=
    visitSite_aggregates marking twins ⟨(), [], []⟩
  obtain rfl : _ = own := congrArg Prod.fst asked
  obtain rfl : _ = ofMembers := congrArg Prod.fst askedMembers
  refine ⟨o, final, run, ofType.eq_none_iff.mpr (by decide), fields.keys_eq.trans (by decide),
    ?_, (fields.merged "z").eq_none_iff.mpr (by decide), cases⟩
  cases held : o.ofFields.find? "x" with
  | none => exact absurd ((fields.merged "x").eq_none_iff.mp held) (by decide)
  | some c =>
    have concatenated := (fields.merged "x").concatenates (by decide) c held
    exact ⟨c, rfl, (concatenated.2 "attributes").trans (by decide)⟩

end Service

end SchemaWeaver
