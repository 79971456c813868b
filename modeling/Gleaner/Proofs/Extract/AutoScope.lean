import Gleaner.Proofs.Extract.Shipped
import Gleaner.Proofs.Html.Outline
import Mathlib

/-!
# Automatic scopes

Without a query for its scope a schema is resolved at the parents of the matches of its selector.
This groups the matches: they are searched again below each parent.

## Main definitions

* `Regroups`: what the scopes and the groups have to do with the matches.
* `textAt`: the result for a match without transforms.

## Main results

* `mem_parentsOf_iff`, `pairwise_parentsOf`: the parents of nodes, in the order of the first node
  of each.
* `resolve_autoScope`: automatic scopes regroup the matches, and an automatically scoped list of
  texts is an array of their groups.
-/

namespace Gleaner

variable {Node : Type}

namespace DocumentModel

/-- A document model tells the parents of some nodes apart. -/
def TellsParentsApart (m : DocumentModel Node) (nodes : List Node) : Prop :=
  ∀ x ∈ nodes, ∀ y ∈ nodes, ∀ p q, m.parent x = some p → m.parent y = some q →
    (m.same p q = true ↔ p = q)

section Parents

variable {m : DocumentModel Node} {nodes : List Node}

theorem TellsParentsApart.init {x : Node} (h : m.TellsParentsApart (nodes ++ [x])) :
    m.TellsParentsApart nodes :=
  fun y hy z hz => h y (List.mem_append_left _ hy) z (List.mem_append_left _ hz)

/-- A node without a parent adds none. -/
theorem parentsOf_concat_none {x : Node} (hx : m.parent x = none) :
    m.parentsOf (nodes ++ [x]) = m.parentsOf nodes := by
  simp [parentsOf, List.foldl_append, hx]

/-- A node with a parent adds it at the end, unless it was there. -/
theorem parentsOf_concat_some {x p : Node} (hx : m.parent x = some p) :
    m.parentsOf (nodes ++ [x]) =
      if (m.parentsOf nodes).any (m.same · p) then m.parentsOf nodes
      else m.parentsOf nodes ++ [p] := by
  simp [parentsOf, List.foldl_append, hx]

/-- The parents of nodes are what is reported as the parent of one of them. -/
theorem mem_parentsOf_iff (h : m.TellsParentsApart nodes) {p : Node} :
    p ∈ m.parentsOf nodes ↔ ∃ x ∈ nodes, m.parent x = some p := by
  induction nodes using List.reverseRecOn generalizing p with
  | nil => simp [parentsOf]
  | append_singleton nodes x ih =>
    cases hx : m.parent x with
    | none => simp [parentsOf_concat_none hx, ih h.init, hx, or_and_right, exists_or]
    | some q =>
      have hadded : p ∈ m.parentsOf (nodes ++ [x]) ↔ p ∈ m.parentsOf nodes ∨ q = p := by
        rw [parentsOf_concat_some hx]
        split
        next hany =>
          -- an earlier parent that is the same is equal, so nothing new was to be added
          obtain ⟨q', hq', hsame⟩ := List.any_eq_true.1 hany
          obtain ⟨y, hy, hyq⟩ := (ih h.init).1 hq'
          obtain rfl : q' = q :=
            (h y (List.mem_append_left _ hy) x (by simp) q' q hyq hx).1 hsame
          exact (or_iff_left_of_imp fun hqp => hqp ▸ hq').symm
        next => simp [eq_comm]
      simp [hadded, ih h.init, hx, or_and_right, exists_or]

section Order

variable [DecidableEq Node] {x p : Node}

/-- A parent of some nodes has its first node among them. -/
theorem findIdx_lt_of_mem_parentsOf (h : m.TellsParentsApart nodes) (hp : p ∈ m.parentsOf nodes) :
    nodes.findIdx (m.parent · = some p) < nodes.length := by
  obtain ⟨y, hy, hyp⟩ := (mem_parentsOf_iff h).1 hp
  exact List.findIdx_lt_length_of_exists ⟨y, hy, decide_eq_true hyp⟩

/-- With one more node at the end a parent keeps its first node. -/
theorem findIdx_concat_of_mem_parentsOf (h : m.TellsParentsApart nodes)
    (hp : p ∈ m.parentsOf nodes) :
    (nodes ++ [x]).findIdx (m.parent · = some p) = nodes.findIdx (m.parent · = some p) := by
  rw [List.findIdx_append, if_pos (findIdx_lt_of_mem_parentsOf h hp)]

/-- A parent of no node so far has its first node after all of them. -/
theorem le_findIdx_concat_of_not_mem_parentsOf (h : m.TellsParentsApart nodes)
    (hp : p ∉ m.parentsOf nodes) :
    nodes.length ≤ (nodes ++ [x]).findIdx (m.parent · = some p) := by
  have hnone : nodes.findIdx (m.parent · = some p) = nodes.length :=
    List.findIdx_eq_length.2 fun y hy => decide_eq_false fun hyp =>
      hp ((mem_parentsOf_iff h).2 ⟨y, hy, hyp⟩)
  rw [List.findIdx_append, if_neg (Nat.not_lt.2 (Nat.le_of_eq hnone.symm))]
  exact Nat.le_add_left _ _

/-- Parents come in the order of the first node of each. -/
theorem pairwise_parentsOf (h : m.TellsParentsApart nodes) :
    (m.parentsOf nodes).Pairwise fun p q =>
      nodes.findIdx (m.parent · = some p) < nodes.findIdx (m.parent · = some q) := by
  induction nodes using List.reverseRecOn with
  | nil => simp [parentsOf]
  | append_singleton nodes x ih =>
    -- the order of the earlier parents is not changed by one more node at the end
    have hearlier : (m.parentsOf nodes).Pairwise fun p q =>
        (nodes ++ [x]).findIdx (m.parent · = some p) <
          (nodes ++ [x]).findIdx (m.parent · = some q) :=
      (ih h.init).imp_of_mem fun hp hq hpq => by
        rwa [findIdx_concat_of_mem_parentsOf h.init hp, findIdx_concat_of_mem_parentsOf h.init hq]
    cases hx : m.parent x with
    | none => rwa [parentsOf_concat_none hx]
    | some q =>
      rw [parentsOf_concat_some hx]
      split
      next => exact hearlier
      next hany =>
        -- a parent that is added was no parent before, as it is the same as itself
        have hsame : m.same q q = true := (h x (by simp) x (by simp) q q hx hx).2 rfl
        have hnew : q ∉ m.parentsOf nodes := fun hq => hany (List.any_eq_true.2 ⟨q, hq, hsame⟩)
        refine List.pairwise_append.2 ⟨hearlier, List.pairwise_singleton _ _, fun p hp r hr => ?_⟩
        obtain rfl : r = q := List.mem_singleton.1 hr
        rw [findIdx_concat_of_mem_parentsOf h.init hp]
        exact lt_of_lt_of_le (findIdx_lt_of_mem_parentsOf h.init hp)
          (le_findIdx_concat_of_not_mem_parentsOf h.init hnew)

/-- No parent comes twice. -/
theorem nodup_parentsOf (h : m.TellsParentsApart nodes) : (m.parentsOf nodes).Nodup :=
  (pairwise_parentsOf h).imp fun hlt heq => absurd (heq ▸ hlt) (lt_irrefl _)

end Order

end Parents

end DocumentModel

section Regroups

variable {m : DocumentModel Node} {t : Outline Node} {query : String} {hits : Node → Bool}

/-- The parent of a node below the top is the node of a part that it lies below. -/
theorem Outline.Presents.exists_part_of_parent (h : t.Presents m) {x p : Node}
    (hx : x ∈ t.descendants) (hp : m.parent x = some p) :
    ∃ u ∈ t.parts, u.reported = true ∧ u.name = p ∧ x ∈ u.descendants := by
  obtain ⟨u, hu, c, hc, rfl⟩ := Outline.exists_parent_of_mem_descendants hx
  rw [h.parent_child u hu c hc] at hp
  cases hreported : u.reported with
  | false => simp [hreported] at hp
  | true =>
    rw [hreported, if_pos rfl, Option.some.injEq] at hp
    exact ⟨u, hu, hreported, hp, Outline.name_mem_descendants hc⟩

/-- In a solid outline a node below a reported one has a parent. -/
theorem Outline.Presents.isSome_parent_of_solid (h : t.Presents m) (hsolid : t.Solid)
    {u : Outline Node} (hu : u ∈ t.parts) (hreported : u.reported = true) {x : Node}
    (hx : x ∈ u.descendants) : (m.parent x).isSome = true := by
  obtain ⟨v, hv, c, hc, rfl⟩ := Outline.exists_parent_of_mem_descendants hx
  rw [h.parent_child v (Outline.parts_trans hv hu) c hc, hsolid u hu hreported v hv, if_pos rfl]
  rfl

/-- A presented outline has its parents told apart. -/
theorem Outline.Presents.tellsParentsApart (h : t.Presents m) {nodes : List Node}
    (hnodes : ∀ x ∈ nodes, x ∈ t.descendants) : m.TellsParentsApart nodes := by
  intro x hx y hy p q hp hq
  obtain ⟨u, hu, -, rfl, -⟩ := h.exists_part_of_parent (hnodes x hx) hp
  obtain ⟨v, hv, -, rfl, -⟩ := h.exists_part_of_parent (hnodes y hy) hq
  exact h.same_iff u hu v hv

/-- What the scopes of a schema, and the groups of nodes found at them, have to do with the matches
of its query below the top of an outline. -/
structure Regroups [DecidableEq Node] (m : DocumentModel Node) (t : Outline Node) (query : String)
    (found scopes : List Node) (groups : List (List Node)) : Prop where
  /-- The scopes are pairwise different. -/
  nodup : scopes.Nodup
  /-- The scopes are the parents of the matches. -/
  mem_scopes_iff : ∀ p, p ∈ scopes ↔ ∃ x ∈ found, m.parent x = some p
  /-- The scopes come in the order of the first match that each is the parent of. -/
  ordered : scopes.Pairwise fun p q =>
    found.findIdx (m.parent · = some p) < found.findIdx (m.parent · = some q)
  /-- The groups are what the query finds at the scopes, in their order. -/
  requeried : List.Forall₂ (fun p group => m.findAll p query = some group) scopes groups
  /-- A match with a parent is found again below it. -/
  found_again : ∀ x ∈ found, ∀ p, m.parent x = some p →
    ∃ group ∈ groups, m.findAll p query = some group ∧ x ∈ group
  /-- What is found at a scope are matches, in the same order. -/
  sublist_found : ∀ group ∈ groups, group.Sublist found
  /-- The groups together are the matches that lie below a scope. -/
  mem_groups_iff : ∀ x, (∃ group ∈ groups, x ∈ group) ↔
    x ∈ found ∧ ∃ u ∈ t.parts, u.reported = true ∧ u.name ∈ scopes ∧ x ∈ u.descendants
  /-- In a solid outline the groups together are the matches with a parent. -/
  mem_groups_iff_of_solid : t.Solid →
    ∀ x, (∃ group ∈ groups, x ∈ group) ↔ x ∈ found ∧ (m.parent x).isSome = true

/-- What a query finds at each of a list of scopes. -/
def groupsAt (m : DocumentModel Node) (query : String) (scopes : List Node) : List (List Node) :=
  scopes.map fun p => (m.findAll p query).getD []

section Matches

variable (hpresents : t.Presents m) (hanswers : t.Answers m query hits)
include hpresents

/-- The parents of matches are told apart. -/
theorem tellsParentsApart_matches : m.TellsParentsApart (t.descendants.filter hits) :=
  hpresents.tellsParentsApart fun _ => List.mem_of_mem_filter

/-- The parents of matches are the parents that one of them has. -/
theorem mem_parentsOf_matches_iff {p : Node} :
    p ∈ m.parentsOf (t.descendants.filter hits) ↔
      ∃ x ∈ t.descendants.filter hits, m.parent x = some p :=
  DocumentModel.mem_parentsOf_iff (tellsParentsApart_matches hpresents)

/-- The parent of a match is the node of a reported part that the match lies below. -/
theorem exists_part_of_match {x p : Node} (hx : x ∈ t.descendants.filter hits)
    (hp : m.parent x = some p) :
    ∃ u ∈ t.parts, u.reported = true ∧ u.name = p ∧ x ∈ u.descendants.filter hits := by
  obtain ⟨hbelow, hit⟩ := List.mem_filter.1 hx
  obtain ⟨u, hu, hreported, hname, hxu⟩ := hpresents.exists_part_of_parent hbelow hp
  exact ⟨u, hu, hreported, hname, List.mem_filter.2 ⟨hxu, hit⟩⟩

include hanswers

/-- At a parent of matches the query finds what matches below a reported part. -/
theorem findAll_of_mem_parentsOf {p : Node} (hp : p ∈ m.parentsOf (t.descendants.filter hits)) :
    ∃ u ∈ t.parts, u.reported = true ∧ u.name = p ∧
      m.findAll p query = some (u.descendants.filter hits) := by
  obtain ⟨x, hx, hxp⟩ := (mem_parentsOf_matches_iff hpresents).1 hp
  obtain ⟨u, hu, hreported, rfl, -⟩ := exists_part_of_match hpresents hx hxp
  exact ⟨u, hu, hreported, rfl, hanswers.reported u hu hreported⟩

/-- The groups at the parents of matches are what matches below reported parts. -/
theorem mem_groupsAt_iff {group : List Node} :
    group ∈ groupsAt m query (m.parentsOf (t.descendants.filter hits)) ↔
      ∃ u ∈ t.parts, u.reported = true ∧ u.name ∈ m.parentsOf (t.descendants.filter hits) ∧
        group = u.descendants.filter hits := by
  rw [groupsAt, List.mem_map]
  constructor
  · -- every scope is the node of a reported part, where the query is answered
    rintro ⟨p, hp, rfl⟩
    obtain ⟨u, hu, hreported, rfl, hfind⟩ := findAll_of_mem_parentsOf hpresents hanswers hp
    exact ⟨u, hu, hreported, hp, by rw [hfind, Option.getD_some]⟩
  · rintro ⟨u, hu, hreported, hp, rfl⟩
    exact ⟨u.name, hp, by rw [hanswers.reported u hu hreported, Option.getD_some]⟩

/-- At every parent of matches the query finds its group. -/
theorem forall₂_groupsAt :
    List.Forall₂ (fun p group => m.findAll p query = some group)
      (m.parentsOf (t.descendants.filter hits))
      (groupsAt m query (m.parentsOf (t.descendants.filter hits))) := by
  refine List.forall₂_map_right_iff.2 (List.forall₂_same.2 fun p hp => ?_)
  obtain ⟨u, -, -, -, hfind⟩ := findAll_of_mem_parentsOf hpresents hanswers hp
  rw [hfind, Option.getD_some]

/-- A match with a parent is in the group that the query finds there. -/
theorem exists_group_of_match {x p : Node} (hx : x ∈ t.descendants.filter hits)
    (hp : m.parent x = some p) :
    ∃ group ∈ groupsAt m query (m.parentsOf (t.descendants.filter hits)),
      m.findAll p query = some group ∧ x ∈ group := by
  have hscope := (mem_parentsOf_matches_iff hpresents).2 ⟨x, hx, hp⟩
  obtain ⟨u, hu, hreported, rfl, hxu⟩ := exists_part_of_match hpresents hx hp
  exact ⟨_, (mem_groupsAt_iff hpresents hanswers).2 ⟨u, hu, hreported, hscope, rfl⟩,
    hanswers.reported u hu hreported, hxu⟩

/-- The groups at the parents of matches are together the matches that lie below one of them. -/
theorem exists_mem_groupsAt_iff {x : Node} :
    (∃ group ∈ groupsAt m query (m.parentsOf (t.descendants.filter hits)), x ∈ group) ↔
      x ∈ t.descendants.filter hits ∧ ∃ u ∈ t.parts, u.reported = true ∧
        u.name ∈ m.parentsOf (t.descendants.filter hits) ∧ x ∈ u.descendants := by
  constructor
  · rintro ⟨group, hgroup, hx⟩
    obtain ⟨u, hu, hreported, hscope, rfl⟩ := (mem_groupsAt_iff hpresents hanswers).1 hgroup
    exact ⟨((Outline.descendants_sublist_of_mem_parts hu).filter hits).subset hx, u, hu, hreported,
      hscope, List.mem_of_mem_filter hx⟩
  · rintro ⟨hx, u, hu, hreported, hscope, hxu⟩
    exact ⟨_, (mem_groupsAt_iff hpresents hanswers).2 ⟨u, hu, hreported, hscope, rfl⟩,
      List.mem_filter.2 ⟨hxu, (List.mem_filter.1 hx).2⟩⟩

/-- In a solid outline the groups at the parents of matches are together the matches that have a
parent. -/
theorem exists_mem_groupsAt_iff_of_solid (hsolid : t.Solid) {x : Node} :
    (∃ group ∈ groupsAt m query (m.parentsOf (t.descendants.filter hits)), x ∈ group) ↔
      x ∈ t.descendants.filter hits ∧ (m.parent x).isSome = true := by
  constructor
  · rintro ⟨group, hgroup, hx⟩
    obtain ⟨u, hu, hreported, -, rfl⟩ := (mem_groupsAt_iff hpresents hanswers).1 hgroup
    exact ⟨((Outline.descendants_sublist_of_mem_parts hu).filter hits).subset hx,
      hpresents.isSome_parent_of_solid hsolid hu hreported (List.mem_of_mem_filter hx)⟩
  · rintro ⟨hx, hsome⟩
    obtain ⟨p, hp⟩ := Option.isSome_iff_exists.1 hsome
    obtain ⟨group, hgroup, -, hxg⟩ := exists_group_of_match hpresents hanswers hx hp
    exact ⟨group, hgroup, hxg⟩

/-- The parents of the matches regroup them. -/
theorem regroups_parentsOf [DecidableEq Node] :
    Regroups m t query (t.descendants.filter hits) (m.parentsOf (t.descendants.filter hits))
      (groupsAt m query (m.parentsOf (t.descendants.filter hits))) where
  nodup := DocumentModel.nodup_parentsOf (tellsParentsApart_matches hpresents)
  mem_scopes_iff _ := mem_parentsOf_matches_iff hpresents
  ordered := DocumentModel.pairwise_parentsOf (tellsParentsApart_matches hpresents)
  requeried := forall₂_groupsAt hpresents hanswers
  found_again _ hx _ hp := exists_group_of_match hpresents hanswers hx hp
  sublist_found group hgroup := by
    obtain ⟨u, hu, -, -, rfl⟩ := (mem_groupsAt_iff hpresents hanswers).1 hgroup
    exact (Outline.descendants_sublist_of_mem_parts hu).filter hits
  mem_groups_iff _ := exists_mem_groupsAt_iff hpresents hanswers
  mem_groups_iff_of_solid hsolid _ := exists_mem_groupsAt_iff_of_solid hpresents hanswers hsolid

end Matches

end Regroups

section Grouped

variable {m : DocumentModel Node}

/-- The result for a match of a text that no transforms change. -/
def textAt (m : DocumentModel Node) (o : TextOptions) (trimmed : Option Bool)
    (attr : Option String) (node : Node) : Except ResolveError Value :=
  let content := contentOf m attr node
  Coerce.text o (if trimmed = some false then content else trimValue content)

/-- The result for the matches of a list of texts that no transforms change. -/
def textsAt (m : DocumentModel Node) (o : TextOptions) (trimmed : Option Bool)
    (attr : Option String) (nodes : List Node) : Except ResolveError Value :=
  (collect (textAt m o trimmed attr) nodes).map .array

/-- Results that are never null are all kept. -/
theorem resolveEach_of_not_null {f : Node → Except ResolveError Value} {nodes : List Node}
    (h : ∀ node ∈ nodes, ∀ v, f node = .ok v → v.isNull = false) :
    resolveEach f nodes = (collect f nodes).map .array := by
  rw [resolveEach]
  cases hcollect : collect f nodes with
  | error e => rfl
  | ok vs =>
    have hkept : vs.filter (!·.isNull) = vs := by
      refine List.filter_eq_self.2 fun v hv => ?_
      obtain ⟨node, hnode, hok⟩ := exists_of_mem_collect hcollect hv
      simp [h node hnode v hok]
    simp only [hkept, Except.map]

/-- A list of texts without transforms gives the texts of what its query finds. -/
theorem resolveValue_texts {x : Extractor Node} {raw query : String} {o : TextOptions}
    {options : SchemaOptions} {node : Node} {found : List Node} (rest : List String)
    (hquery : queryOf raw = some query) (hbare : (Selector.ofText raw).transforms = [])
    (htransforms : options.transforms = []) (harr : options.arrTransforms = [])
    (hfound : x.model.findAll node query = some found) :
    resolveValue x (.all (raw :: rest)) (.implicit o) options node =
      textsAt x.model o options.trim (Selector.ofText raw).attr found := by
  have hfinish : (fun node => finish x (Selector.ofText raw) (.implicit o) options (some node)) =
      textAt x.model o options.trim (Selector.ofText raw).attr := by
    funext node
    simp only [finish, hbare, htransforms, List.map_nil, List.append_nil, Pipeline.build,
      List.filterMap_nil, runPipeline, Pipeline.run, ValueKind.coerce, textAt]
  have hselector : (Selector.ofText raw).query = some query := hquery
  simp only [resolveValue, QueryChoice.active, List.head?_cons, hselector, QueryChoice.isAll,
    ↓reduceIte, hfound, hfinish, harr, Pipeline.build, List.filterMap_nil, runPipeline,
    Pipeline.run, textsAt]
  cases collect (textAt x.model o options.trim (Selector.ofText raw).attr) found <;> rfl

/-- Below scopes that regroup the matches a list of texts without transforms gives an array of the
texts of each group. -/
theorem resolveEach_texts {x : Extractor Node} {raw query : String} {o : TextOptions}
    {options : SchemaOptions} {scopes : List Node} {groups : List (List Node)} (rest : List String)
    (hquery : queryOf raw = some query) (hbare : (Selector.ofText raw).transforms = [])
    (htransforms : options.transforms = []) (harr : options.arrTransforms = [])
    (hfound : List.Forall₂ (fun p group => x.model.findAll p query = some group) scopes groups) :
    resolveEach (resolveValue x (.all (raw :: rest)) (.implicit o) options) scopes =
      (collect (textsAt x.model o options.trim (Selector.ofText raw).attr) groups).map .array := by
  have hsame : List.Forall₂ (fun p group =>
      resolveValue x (.all (raw :: rest)) (.implicit o) options p =
        textsAt x.model o options.trim (Selector.ofText raw).attr group) scopes groups :=
    hfound.imp fun p group => resolveValue_texts rest hquery hbare htransforms harr
  rw [resolveEach_of_not_null, collect_congr_forall₂ hsame]
  -- the result at a scope is an array, so none is left out as null
  intro p hp v hv
  obtain ⟨group, -, hgroup⟩ := exists_of_forall₂_of_mem (R := flip _) hsame.flip hp
  rw [show resolveValue x _ _ options p = textsAt x.model o _ _ group from hgroup, textsAt] at hv
  cases hcollect : collect (textAt x.model o options.trim (Selector.ofText raw).attr) group with
  | error e => simp [hcollect, Except.map] at hv
  | ok vs =>
    simp only [hcollect, Except.map, Except.ok.injEq] at hv
    rw [← hv]
    rfl

/-- Automatic scopes lose no match and repeat no group: on an outline that a document model
presents, and answers a query on, the parents of the matches regroup them, and a list of texts at
automatic scopes is the array of the texts of each group. -/
theorem resolve_autoScope [DecidableEq Node] {t : Outline Node} {raw query : String}
    {hits : Node → Bool} (hpresents : t.Presents m) (hanswers : t.Answers m query hits)
    (hquery : queryOf raw = some query) :
    ∃ found scopes groups, m.findAll t.name query = some found ∧
      (∀ choice kind options, choice.active = some raw →
        autoScope m t.name (.value choice kind options) = .ok scopes) ∧
      Regroups m t query found scopes groups ∧
      ∀ registries rest o options queries, options.scope = some (.all queries) →
        queries.head?.filter (!·.isEmpty) = none →
        (Selector.ofText raw).transforms = [] → options.transforms = [] →
        options.arrTransforms = [] →
        (Extractor.full m registries).resolve (some t.name)
            (.value (.all (raw :: rest)) (.implicit o) options) =
          (collect (textsAt m o options.trim (Selector.ofText raw).attr) groups).map .array := by
  have hfound := hanswers.top
  have hregroups := regroups_parentsOf hpresents hanswers
  have hscopes (choice : QueryChoice) (kind : ValueKind) (options : SchemaOptions)
      (hactive : choice.active = some raw) :
      autoScope m t.name (.value choice kind options) =
        .ok (m.parentsOf (t.descendants.filter hits)) := by
    simp only [autoScope, hactive, Option.bind_some, hquery, hfound]
  refine ⟨_, _, _, hfound, hscopes, hregroups, ?_⟩
  intro registries rest o options queries hscope hqueries hbare htransforms harr
  have hlacks : (Schema.value (.all (raw :: rest)) (.implicit o) options).lacksQuery = false := by
    simp [Schema.lacksQuery, QueryChoice.active, hquery]
  -- the scope leads to the parents of the matches, each with its group
  rw [Extractor.resolve, resolveIn_full_value_some, if_neg (by simp), hlacks, if_neg (by simp)]
  simp only [placement, Schema.options, hscope, hqueries,
    hscopes (.all (raw :: rest)) (.implicit o) options rfl, Placement.run,
    SchemaOptions.inherit_default]
  exact resolveEach_texts (x := .full m registries) rest hquery hbare htransforms harr
    hregroups.requeried

end Grouped

section Pages

/-- The tree of `<p><b>a</b></p><b>c</b>`. -/
def boldTree : Html.Tree :=
  ⟨#[⟨.document, none, [1]⟩, ⟨.element { name := "html" }, some 0, [2, 3]⟩,
    ⟨.element { name := "head" }, some 1, []⟩, ⟨.element { name := "body" }, some 1, [4, 7]⟩,
    ⟨.element { name := "p" }, some 3, [5]⟩, ⟨.element { name := "b" }, some 4, [6]⟩,
    ⟨.text "a", some 5, []⟩, ⟨.element { name := "b" }, some 3, [8]⟩, ⟨.text "c", some 7, []⟩]⟩

/-- The tree of `<div><p>a</p><template><p>b</p></template></div>`. -/
def templateTree : Html.Tree :=
  ⟨#[⟨.document, none, [1]⟩, ⟨.element { name := "html" }, some 0, [2, 3]⟩,
    ⟨.element { name := "head" }, some 1, []⟩, ⟨.element { name := "body" }, some 1, [4]⟩,
    ⟨.element { name := "div" }, some 3, [5, 7]⟩, ⟨.element { name := "p" }, some 4, [6]⟩,
    ⟨.text "a", some 5, []⟩, ⟨.element { name := "template" }, some 4, [8]⟩,
    ⟨.fragment, some 7, [9]⟩, ⟨.element { name := "p" }, some 8, [10]⟩,
    ⟨.text "b", some 9, []⟩]⟩

/-- Whether a node is an element of HTML with a name, for a query that is the name. -/
def isElement (name : String) (node : Html.Node) : Bool := node.tree.isNamed node.id name

/-- Groups overlap where a match lies below a parent of others. -/
theorem resolve_autoScope_nested :
    (boldTree.outline 5 0).Presents (Html.documents false) ∧
      (boldTree.outline 5 0).Answers (Html.documents false) "b" (isElement "b") ∧
      queryOf "b" = some "b" ∧
      ∃ found scopes groups,
        Regroups (Html.documents false) (boldTree.outline 5 0) "b" found scopes groups ∧
          (collect (textsAt (Html.documents false) {} none (Selector.ofText "b").attr)
              groups).map Value.array =
            .ok (Value.array [.array [.string "a"], .array [.string "a", .string "c"]]) := by
  have hpresents := Html.Tree.presents_outline (t := boldTree) (by decide +kernel) false 5 0
  have hanswers : (boldTree.outline 5 0).Answers (Html.documents false) "b" (isElement "b") :=
    ⟨by decide +kernel, by decide +kernel⟩
  have hquery : queryOf "b" = some "b" := by cbv
  obtain ⟨found, scopes, groups, -, -, hregroups, htexts⟩ :=
    resolve_autoScope hpresents hanswers hquery
  have hresult := htexts .empty [] {} { scope := some (.all []) } [] rfl rfl (by cbv) rfl rfl
  exact ⟨hpresents, hanswers, hquery, found, scopes, groups, hregroups, hresult.symm.trans (by cbv)⟩

/-- What lies in a template is found below an element around it, though it has no parent: the group
of the element holds a match that has none. -/
theorem autoScope_template :
    (templateTree.outline 7 0).Presents (Html.documents false) ∧
      (templateTree.outline 7 0).Answers (Html.documents false) "p" (isElement "p") ∧
      autoScope (Html.documents false) ⟨templateTree, 0⟩ (.value (.all ["p"]) (.implicit {}) {}) =
        .ok [⟨templateTree, 4⟩] ∧
      (Html.documents false).findAll ⟨templateTree, 4⟩ "p" =
        some [⟨templateTree, 5⟩, ⟨templateTree, 9⟩] ∧
      (Html.documents false).parent ⟨templateTree, 9⟩ = none ∧
      (Extractor.full (Html.documents false) .empty).resolve (some ⟨templateTree, 0⟩)
          (.value (.all ["p"]) (.implicit {}) { scope := some (.all []) }) =
        .ok (.array [.array [.string "a", .string "b"]]) :=
  ⟨Html.Tree.presents_outline (by decide +kernel) false 7 0,
    ⟨by decide +kernel, by decide +kernel⟩, by cbv, by decide +kernel, by decide +kernel, by cbv⟩

end Pages

end Gleaner
