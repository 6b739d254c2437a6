import Mathlib.Data.List.Perm.Basic
import Reshape.Proofs.Schema.Validation
import Reshape.Proofs.Text.Dotted

/-!
# What is filed in an error tree

An error tree is a list of messages with their paths, in an order of its own
(`ErrorTree.entries`).  Every operation adds entries to it: a change of the tree *appends* a list of
entries when, at each path, their messages follow those that are there (`ErrorTree.Appends`).
Recording a message appends it, a change below a path appends below the path, and merging appends the
entries of the merged tree.  So a tree that was filled by any sequence of operations keeps what was
recorded, at the routes where it was recorded (`ErrorTree.Filing.Routed.keeps_messages`).

Paths are lists of segments, and routes are written with dots; the two agree on segments that are not
empty and have no dot (`ErrorTree.IsSegment`), which is why the children of a node are told apart by
such segments, in ascending order (`ErrorTree.Ordered`).
-/

namespace Reshape

/-! ## Messages by key -/

section Filed

variable {β γ α : Type} [DecidableEq β] [DecidableEq γ]

/-- The messages under a key, in their order. -/
def filed (key : β) (entries : List (β × α)) : List α :=
  (entries.filter (·.1 = key)).map (·.2)

theorem filed_append (key : β) (entries entries' : List (β × α)) :
    filed key (entries ++ entries') = filed key entries ++ filed key entries' := by
  simp [filed]

/-- Renaming the keys one to one keeps what is under them. -/
theorem filed_map_of_injective {f : β → γ} (hf : Function.Injective f) (key : β)
    (entries : List (β × α)) : filed (f key) (entries.map (Prod.map f id)) = filed key entries := by
  simp only [filed, List.filter_map, List.map_map]
  refine congrArg₂ List.map rfl (List.filter_congr fun e _ => ?_)
  simp [hf.eq_iff]

/-- Nothing is under a key that no entry has. -/
theorem filed_eq_nil {key : β} {entries : List (β × α)} (h : ∀ e ∈ entries, e.1 ≠ key) :
    filed key entries = [] := by
  rw [filed, List.filter_eq_nil_iff.2 fun e he => by simpa using h e he, List.map_nil]

/-- Entries with the same messages under each key have so after their keys were renamed. -/
theorem filed_map_congr {f : β → γ} (hf : Function.Injective f) {entries entries' : List (β × α)}
    (h : ∀ key, filed key entries = filed key entries') (key : γ) :
    filed key (entries.map (Prod.map f id)) = filed key (entries'.map (Prod.map f id)) := by
  by_cases hkey : ∃ key', f key' = key
  · obtain ⟨key', rfl⟩ := hkey
    rw [filed_map_of_injective hf, filed_map_of_injective hf, h]
  · have hnone : ∀ l : List (β × α), filed key (l.map (Prod.map f id)) = [] := by
      intro l
      refine filed_eq_nil fun e he => ?_
      obtain ⟨e, -, rfl⟩ := List.mem_map.1 he
      exact fun heq => hkey ⟨e.1, heq⟩
    rw [hnone, hnone]

/-- Entries with the same messages under each key are the same in another order. -/
theorem perm_of_filed {entries entries' : List (β × α)}
    (h : ∀ key, filed key entries = filed key entries') : entries.Perm entries' := by
  classical
  refine List.perm_iff_count.2 fun (key, message) => ?_
  have hcount : ∀ l : List (β × α), l.count (key, message) = (filed key l).count message := by
    intro l
    induction l with
    | nil => rfl
    | cons e rest ih =>
      obtain ⟨k, m⟩ := e
      rw [List.count_cons, ih]
      by_cases hk : k = key
      · subst hk
        simp [filed, List.count_cons]
      · simp [filed, hk]
  rw [hcount, hcount, h]

end Filed

namespace ErrorTree

variable {α : Type}

/-! ## Routes and paths -/

/-- The segments that lead to a route.  The empty route is reached without any. -/
def path (route : String) : List String :=
  if route = "" then [] else segments route

/-- The route of a place below a route. -/
def routeBelow (route inner : String) : String :=
  if inner = "" then route else extend route inner

/-- A segment: a text that is not empty and has no dot. -/
def IsSegment (s : String) : Prop :=
  path s = [s]

/-- A route whose segments are not empty. -/
def Dotted (route : String) : Prop :=
  ∀ s ∈ segments route, s ≠ ""

theorem path_empty : path "" = [] := rfl

theorem path_of_ne {route : String} (h : route ≠ "") : path route = segments route :=
  if_neg h

theorem path_injective : Function.Injective path := by
  intro route route' h
  by_cases hroute : route = "" <;> by_cases hroute' : route' = ""
  · rw [hroute, hroute']
  · rw [hroute, path_empty, path_of_ne hroute'] at h
    exact absurd h.symm (splitOn_dot_ne_nil route')
  · rw [hroute', path_empty, path_of_ne hroute] at h
    exact absurd h (splitOn_dot_ne_nil route)
  · rw [path_of_ne hroute, path_of_ne hroute'] at h
    exact splitOn_dot_injective h

/-- A longer route has a longer path. -/
theorem path_extend (route : String) {inner : String} (h : inner ≠ "") :
    path (extend route inner) = path route ++ path inner := by
  by_cases hroute : route = ""
  · subst hroute
    rfl
  · have hextend : extend route inner = route ++ "." ++ inner := by
      simp [extend, hroute]
    have hne : route ++ "." ++ inner ≠ "" := by
      simp
    rw [hextend, path_of_ne hne, path_of_ne hroute, path_of_ne h]
    exact splitOn_dot_append route inner

theorem path_routeBelow (route inner : String) :
    path (routeBelow route inner) = path route ++ path inner := by
  by_cases h : inner = ""
  · rw [routeBelow, if_pos h, h, path_empty, List.append_nil]
  · rw [routeBelow, if_neg h, path_extend route h]

theorem routeBelow_injective (route : String) : Function.Injective (routeBelow route) := by
  intro inner inner' h
  have hpath := congrArg path h
  rw [path_routeBelow, path_routeBelow] at hpath
  exact path_injective (List.append_cancel_left hpath)

theorem IsSegment.ne_empty {s : String} (h : IsSegment s) : s ≠ "" := by
  rintro rfl
  exact absurd h (List.cons_ne_nil _ _).symm

theorem Dotted.ne_empty {route : String} (h : Dotted route) : route ≠ "" := by
  rintro rfl
  have hmem : "" ∈ segments "" := by
    rw [segments, splitOn_dot]
    exact List.mem_cons_self
  exact h "" hmem rfl

theorem Dotted.isSegment {route s : String} (h : Dotted route) (hs : s ∈ segments route) :
    IsSegment s :=
  (path_of_ne (h s hs)).trans (splitOn_dot_of_mem hs)

theorem Dotted.path_eq {route : String} (h : Dotted route) : path route = segments route :=
  path_of_ne h.ne_empty

/-! ## Entries -/

mutual

/-- Every message with the path of its place. -/
def entries : ErrorTree α → List (List String × α)
  | node ms cs => ms.map (fun m => ([], m)) ++ childEntries cs

/-- Every message below, with the path of its place. -/
def childEntries : List (String × ErrorTree α) → List (List String × α)
  | [] => []
  | (key, child) :: rest => (entries child).map (Prod.map (key :: ·) id) ++ childEntries rest

end

/-- The children are told apart by their segments, in ascending order, at every place. -/
inductive Ordered : ErrorTree α → Prop where
  /-- A node with children that are ordered, and whose segments ascend. -/
  | node {ms : List α} {cs : List (String × ErrorTree α)}
      (ascending : cs.Pairwise fun c c' => c.1 < c'.1) (segments : ∀ c ∈ cs, IsSegment c.1)
      (children : ∀ c ∈ cs, Ordered c.2) : Ordered (.node ms cs)

theorem childEntries_eq (cs : List (String × ErrorTree α)) :
    childEntries cs = cs.flatMap fun c => (entries c.2).map (Prod.map (c.1 :: ·) id) := by
  induction cs with
  | nil => rfl
  | cons c rest ih => rw [childEntries, ih, List.flatMap_cons]

theorem flattenChildren_eq (route : String) (cs : List (String × ErrorTree α)) :
    flattenChildren route cs = cs.flatMap fun c => flattenFrom (extend route c.1) c.2 := by
  induction cs with
  | nil => rfl
  | cons c rest ih => rw [flattenChildren, ih, List.flatMap_cons]

/-- What is below a segment is at paths that start with it. -/
theorem filed_below (k : String) (p : List String) (key : String) (es : List (List String × α)) :
    filed (k :: p) (es.map (Prod.map (key :: ·) id)) = if k = key then filed p es else [] := by
  split
  · rename_i h
    subst h
    exact filed_map_of_injective List.cons_injective p es
  · rename_i h
    refine filed_eq_nil fun e he => ?_
    obtain ⟨e, -, rfl⟩ := List.mem_map.1 he
    exact fun heq => h (List.cons.inj heq).1.symm

/-- Nothing that is below a segment is here. -/
theorem filed_nil_below (key : String) (es : List (List String × α)) :
    filed [] (es.map (Prod.map (key :: ·) id)) = [] := by
  refine filed_eq_nil fun e he => ?_
  obtain ⟨e, -, rfl⟩ := List.mem_map.1 he
  exact List.cons_ne_nil _ _

theorem filed_nil_childEntries (cs : List (String × ErrorTree α)) : filed [] (childEntries cs) = [] := by
  induction cs with
  | nil => rfl
  | cons c rest ih => rw [childEntries, filed_append, filed_nil_below, ih, List.append_nil]

/-- Nothing is below a segment that comes before those of all children. -/
theorem filed_childEntries_of_lt {k : String} {cs : List (String × ErrorTree α)}
    (h : ∀ c ∈ cs, k < c.1) (p : List String) : filed (k :: p) (childEntries cs) = [] := by
  induction cs with
  | nil => rfl
  | cons c rest ih =>
    rw [childEntries, filed_append, filed_below, if_neg (h c List.mem_cons_self).ne,
      ih fun c hc => h c (List.mem_cons_of_mem _ hc), List.append_nil]

/-- The routes of the messages are those of their paths. -/
theorem Ordered.flattenFrom_path {tree : ErrorTree α} (h : tree.Ordered) (route : String) :
    (flattenFrom route tree).map (Prod.map path id) =
      tree.entries.map (Prod.map (path route ++ ·) id) := by
  induction h generalizing route with
  | @node ms cs _ hsegments _ ih =>
    have hhere : (ms.map fun m => (route, m)).map (Prod.map path id) =
        (ms.map fun m => (([] : List String), m)).map (Prod.map (path route ++ ·) id) := by
      simp
    have hbelow : (flattenChildren route cs).map (Prod.map path id) =
        (childEntries cs).map (Prod.map (path route ++ ·) id) := by
      rw [flattenChildren_eq, childEntries_eq, List.map_flatMap, List.map_flatMap]
      refine List.flatMap_congr fun c hc => ?_
      have hsegment : path (extend route c.1) = path route ++ [c.1] := by
        rw [path_extend route (hsegments c hc).ne_empty, hsegments c hc]
      rw [ih c hc, hsegment, List.map_map]
      refine List.map_congr_left fun (p, m) _ => ?_
      simp
    rw [flattenFrom, entries, List.map_append, List.map_append, hhere, hbelow]

/-- What is filed at a route is what is filed at its path. -/
theorem Ordered.filed_flatten {tree : ErrorTree α} (h : tree.Ordered) (route : String) :
    filed route tree.flatten = filed (path route) tree.entries := by
  have hpaths : tree.flatten.map (Prod.map path id) = tree.entries := by
    rw [flatten, h.flattenFrom_path, path_empty]
    exact List.map_id _
  rw [← hpaths, filed_map_of_injective path_injective]

/-! ## Counting -/

mutual

theorem size_eq (route : String) : (tree : ErrorTree α) → tree.size = (flattenFrom route tree).length
  | node ms cs => by
    rw [size, flattenFrom, List.length_append, List.length_map, childrenSize_eq route cs]

theorem childrenSize_eq (route : String) :
    (cs : List (String × ErrorTree α)) → childrenSize cs = (flattenChildren route cs).length
  | [] => rfl
  | (key, child) :: rest => by
    rw [childrenSize, flattenChildren, List.length_append, size_eq (extend route key) child,
      childrenSize_eq route rest]

end

mutual

theorem isEmpty_iff_size : (tree : ErrorTree α) → (tree.isEmpty = true ↔ tree.size = 0)
  | node ms cs => by
    rw [isEmpty, size, Bool.and_eq_true, childrenEmpty_iff_childrenSize cs, Nat.add_eq_zero_iff,
      List.isEmpty_iff, List.length_eq_zero_iff]

theorem childrenEmpty_iff_childrenSize :
    (cs : List (String × ErrorTree α)) → (childrenEmpty cs = true ↔ childrenSize cs = 0)
  | [] => by simp [childrenEmpty, childrenSize]
  | (key, child) :: rest => by
    rw [childrenEmpty, childrenSize, Bool.and_eq_true, isEmpty_iff_size child,
      childrenEmpty_iff_childrenSize rest, Nat.add_eq_zero_iff]

end

theorem result_eq_ok_iff (tree : ErrorTree α) : tree.result = .ok () ↔ tree.size = 0 := by
  rw [← isEmpty_iff_size, result]
  split <;> simp_all

/-! ## Changes that append entries -/

/-- A change of trees that files these entries behind what is there. -/
def Appends (more : List (List String × α)) (f : ErrorTree α → ErrorTree α) : Prop :=
  ∀ tree, tree.Ordered →
    (f tree).Ordered ∧ ∀ p, filed p (f tree).entries = filed p tree.entries ++ filed p more

theorem Ordered.empty : (empty : ErrorTree α).Ordered :=
  .node .nil (fun _ h => absurd h List.not_mem_nil) fun _ h => absurd h List.not_mem_nil

theorem Appends.comp {more more' : List (List String × α)} {f f' : ErrorTree α → ErrorTree α}
    (h : Appends more f) (h' : Appends more' f') : Appends (more ++ more') fun tree => f' (f tree) := by
  intro tree htree
  obtain ⟨hf, hfiled⟩ := h tree htree
  obtain ⟨hf', hfiled'⟩ := h' (f tree) hf
  refine ⟨hf', fun p => ?_⟩
  rw [hfiled', hfiled, filed_append, List.append_assoc]

/-- Nothing is appended by no change. -/
theorem appends_nil : Appends ([] : List (List String × α)) fun tree => tree :=
  fun _ htree => ⟨htree, fun _ => (List.append_nil _).symm⟩

/-- Messages here. -/
theorem appends_here (more : List α) :
    Appends (more.map fun m => ([], m)) fun tree : ErrorTree α =>
      match tree with
      | node ms cs => node (ms ++ more) cs := by
  rintro _ (@⟨ms, cs, hascending, hsegments, hchildren⟩)
  refine ⟨.node hascending hsegments hchildren, fun p => ?_⟩
  rw [entries, entries, List.map_append, filed_append, filed_append, filed_append]
  -- what is below has another path, so that the new messages can go behind it
  cases p with
  | nil => rw [filed_nil_childEntries, List.append_nil, List.append_nil]
  | cons s p =>
    have hmore : filed (s :: p) (more.map fun m => (([] : List String), m)) = [] := by
      refine filed_eq_nil fun e he => ?_
      obtain ⟨m, -, rfl⟩ := List.mem_map.1 he
      exact (List.cons_ne_nil _ _).symm
    rw [hmore, List.append_nil, List.append_nil]

theorem appends_add (message : α) : Appends [([], message)] (add message) := by
  intro tree htree
  cases tree
  exact appends_here [message] _ htree

/-! ### Changes below a segment -/

section Below

variable {more : List (List String × α)} {f : ErrorTree α → ErrorTree α} {s : String}
  {cs : List (String × ErrorTree α)}

/-- A child afterwards is the changed one, or was a child before. -/
theorem mem_changeChild {c : String × ErrorTree α} (hc : c ∈ changeChild s f cs) :
    (c.1 = s ∧ ∃ old, (old = empty ∨ (s, old) ∈ cs) ∧ c.2 = f old) ∨ c ∈ cs := by
  induction cs with
  | nil =>
    rw [changeChild, List.mem_singleton] at hc
    subst hc
    exact .inl ⟨rfl, empty, .inl rfl, rfl⟩
  | cons child rest ih =>
    obtain ⟨key, child⟩ := child
    rw [changeChild] at hc
    split at hc
    · rename_i hkey
      subst hkey
      rcases List.mem_cons.1 hc with rfl | hc
      · exact .inl ⟨rfl, child, .inr List.mem_cons_self, rfl⟩
      · exact .inr (List.mem_cons_of_mem _ hc)
    · split at hc
      · rcases List.mem_cons.1 hc with rfl | hc
        · exact .inl ⟨rfl, empty, .inl rfl, rfl⟩
        · exact .inr hc
      · rcases List.mem_cons.1 hc with rfl | hc
        · exact .inr List.mem_cons_self
        · rcases ih hc with ⟨hkey, old, hold, hnew⟩ | hc
          · exact .inl ⟨hkey, old, hold.imp_right (List.mem_cons_of_mem _), hnew⟩
          · exact .inr (List.mem_cons_of_mem _ hc)

theorem ascending_changeChild (h : cs.Pairwise fun c c' => c.1 < c'.1) :
    (changeChild s f cs).Pairwise fun c c' => c.1 < c'.1 := by
  induction h with
  | nil => exact List.pairwise_singleton _ _
  | @cons child rest hfirst hrest ih =>
    obtain ⟨key, child⟩ := child
    rw [changeChild]
    split
    · exact .cons hfirst hrest
    · rename_i hne
      split
      · rename_i hlt
        refine .cons (fun c hc => ?_) (.cons hfirst hrest)
        rcases List.mem_cons.1 hc with rfl | hc
        · exact hlt
        · exact hlt.trans (hfirst c hc)
      · rename_i hle
        have hlt : key < s := lt_of_le_of_ne (not_lt.1 hle) (Ne.symm hne)
        refine .cons (fun c hc => ?_) ih
        rcases mem_changeChild hc with ⟨hkey, -⟩ | hc
        · exact hkey ▸ hlt
        · exact hfirst c hc

/-- The entries that are appended to a child. -/
theorem filed_changeChild (hf : Appends more f) (hascending : cs.Pairwise fun c c' => c.1 < c'.1)
    (hchildren : ∀ c ∈ cs, c.2.Ordered) (k : String) (p : List String) :
    filed (k :: p) (childEntries (changeChild s f cs)) =
      filed (k :: p) (childEntries cs) ++ if k = s then filed p more else [] := by
  have hempty : filed p (f empty).entries = filed p more := (hf empty .empty).2 p
  induction hascending with
  | nil =>
    have hone : childEntries [(s, f empty)] = (f empty).entries.map (Prod.map (s :: ·) id) :=
      List.append_nil _
    rw [changeChild, hone, filed_below, hempty]
    rfl
  | @cons child rest hfirst hrest ih =>
    obtain ⟨key, child⟩ := child
    rw [changeChild]
    split
    · rename_i hkey
      subst hkey
      rw [childEntries, childEntries, filed_append, filed_append, filed_below, filed_below,
        (hf child (hchildren _ List.mem_cons_self)).2]
      split
      · rename_i hk
        subst hk
        rw [filed_childEntries_of_lt hfirst, List.append_nil, List.append_nil]
      · rw [List.append_nil]
    · split
      · rename_i hlt
        rw [childEntries, filed_append, filed_below, hempty]
        split
        · rename_i hk
          subst hk
          -- the segments ascend, so none of the children that follow has this one
          have hbefore : ∀ c ∈ (key, child) :: rest, k < c.1 := by
            intro c hc
            rcases List.mem_cons.1 hc with rfl | hc
            · exact hlt
            · exact hlt.trans (hfirst c hc)
          rw [filed_childEntries_of_lt hbefore, List.append_nil, List.nil_append]
        · rw [List.nil_append, List.append_nil]
      · rw [childEntries, childEntries, filed_append, filed_append,
          ih fun c hc => hchildren c (List.mem_cons_of_mem _ hc), List.append_assoc]

end Below

/-- A change below a segment appends below the segment. -/
theorem Appends.changeAt_singleton {more : List (List String × α)} {f : ErrorTree α → ErrorTree α}
    (hf : Appends more f) {s : String} (hs : IsSegment s) :
    Appends (more.map (Prod.map (s :: ·) id)) (changeAt f [s]) := by
  rintro _ (@⟨ms, cs, hascending, hsegments, hchildren⟩)
  constructor
  · refine .node (ascending_changeChild hascending) (fun c hc => ?_) fun c hc => ?_
    · rcases mem_changeChild hc with ⟨hkey, -⟩ | hc
      · exact hkey ▸ hs
      · exact hsegments c hc
    · rcases mem_changeChild hc with ⟨-, old, rfl | hold, hnew⟩ | hc
      · exact hnew ▸ (hf _ .empty).1
      · exact hnew ▸ (hf old (hchildren _ hold)).1
      · exact hchildren c hc
  · intro p
    rw [changeAt, entries, entries, filed_append, filed_append]
    cases p with
    | nil =>
      rw [filed_nil_childEntries, filed_nil_childEntries, filed_nil_below, List.append_nil,
        List.append_nil]
    | cons k p =>
      rw [filed_below, List.append_assoc]
      exact congrArg _ (filed_changeChild hf hascending hchildren k p)

/-- A change below a path appends below the path. -/
theorem Appends.changeAt {more : List (List String × α)} {f : ErrorTree α → ErrorTree α}
    (hf : Appends more f) {q : List String} (hq : ∀ s ∈ q, IsSegment s) :
    Appends (more.map (Prod.map (q ++ ·) id)) (changeAt f q) := by
  induction q with
  | nil =>
    have hmore : more.map (Prod.map (([] : List String) ++ ·) id) = more := List.map_id _
    rw [hmore]
    exact hf
  | cons s q ih =>
    have hbelow := (ih fun s' hs' => hq s' (List.mem_cons_of_mem _ hs')).changeAt_singleton
      (hq s List.mem_cons_self)
    rw [List.map_map] at hbelow
    intro tree htree
    cases tree
    exact hbelow _ htree

/-! ### Merging -/

/-- Merging trees below appends their entries below. -/
theorem appends_mergeChildren {added : List (String × ErrorTree α)}
    (hsegments : ∀ c ∈ added, IsSegment c.1)
    (hadded : ∀ c ∈ added, Appends c.2.entries fun tree => merge tree c.2) :
    Appends (childEntries added) fun tree : ErrorTree α =>
      match tree with
      | node ms cs => node ms (mergeChildren cs added) := by
  induction added with
  | nil =>
    rintro ⟨ms, cs⟩ htree
    exact appends_nil _ htree
  | cons c rest ih =>
    have hfirst := (hadded c List.mem_cons_self).changeAt_singleton (hsegments c List.mem_cons_self)
    have hrest := ih (fun c hc => hsegments c (List.mem_cons_of_mem _ hc))
      fun c hc => hadded c (List.mem_cons_of_mem _ hc)
    -- merging one child is a change below its segment, and the other children follow
    rintro ⟨ms, cs⟩ htree
    exact hfirst.comp hrest _ htree

/-- Merging a tree appends its entries. -/
theorem Ordered.appends_merge {added : ErrorTree α} (h : added.Ordered) :
    Appends added.entries fun tree => merge tree added := by
  induction h with
  | @node more added _ hsegments _ ih =>
    rintro ⟨ms, cs⟩ htree
    exact (appends_here more).comp (appends_mergeChildren hsegments ih) _ htree

/-! ## Trees filled by any sequence of operations -/

/-- The operations that fill a tree, one after the other.  A tree that is merged was filled too. -/
inductive Filing (α : Type) where
  /-- The empty tree. -/
  | start
  /-- A message here. -/
  | add (before : Filing α) (message : α)
  /-- What an outcome failed with, if it failed. -/
  | addResult (before : Filing α) (outcome : Except α Unit)
  /-- A message below. -/
  | addAt (before : Filing α) (route : String) (message : α)
  /-- A tree merged here. -/
  | merge (before added : Filing α)
  /-- A tree merged below. -/
  | mergeAt (before : Filing α) (route : String) (added : Filing α)

namespace Filing

/-- The tree that is filled. -/
def tree : Filing α → ErrorTree α
  | start => .empty
  | add before message => before.tree.add message
  | addResult before outcome => before.tree.addResult outcome
  | addAt before route message => before.tree.addAt route message
  | merge before added => before.tree.merge added.tree
  | mergeAt before route added => ErrorTree.mergeAt route added.tree before.tree

/-- Every recorded message with its full route, in the order in which they were recorded. -/
def log : Filing α → List (String × α)
  | start => []
  | add before message => before.log ++ [("", message)]
  | addResult before (.ok _) => before.log
  | addResult before (.error message) => before.log ++ [("", message)]
  | addAt before route message => before.log ++ [(route, message)]
  | merge before added => before.log ++ added.log
  | mergeAt before route added => before.log ++ added.log.map (Prod.map (routeBelow route) id)

/-- The routes have segments that are not empty, or are empty themselves where a tree is merged. -/
def Routed : Filing α → Prop
  | start => True
  | add before _ => before.Routed
  | addResult before _ => before.Routed
  | addAt before route _ => before.Routed ∧ Dotted route
  | merge before added => before.Routed ∧ added.Routed
  | mergeAt before route added => before.Routed ∧ (route = "" ∨ Dotted route) ∧ added.Routed

end Filing

/-- A tree that holds what was recorded: at each path, the messages of its route in their order. -/
structure Holds (tree : ErrorTree α) (log : List (String × α)) : Prop where
  /-- The children are told apart by segments. -/
  ordered : tree.Ordered
  /-- The messages of each place are those that were recorded for it. -/
  filed_entries : ∀ p, filed p tree.entries = filed p (log.map (Prod.map path id))

namespace Holds

variable {tree added : ErrorTree α} {log more : List (String × α)} {f : ErrorTree α → ErrorTree α}

/-- A step: what is appended is recorded after what is there. -/
theorem append (h : Holds tree log) (hf : Appends (more.map (Prod.map path id)) f) :
    Holds (f tree) (log ++ more) := by
  obtain ⟨hordered, hfiled⟩ := hf tree h.ordered
  refine ⟨hordered, fun p => ?_⟩
  rw [hfiled, h.filed_entries, List.map_append, filed_append]

/-- Merging a tree records what the tree holds. -/
theorem appends_merge (h : Holds added more) :
    Appends (more.map (Prod.map path id)) fun tree => merge tree added := by
  intro tree htree
  obtain ⟨hordered, hfiled⟩ := h.ordered.appends_merge tree htree
  refine ⟨hordered, fun p => ?_⟩
  rw [hfiled, h.filed_entries]

theorem add (h : Holds tree log) (message : α) : Holds (tree.add message) (log ++ [("", message)]) :=
  h.append (appends_add message)

theorem addAt (h : Holds tree log) {route : String} (hroute : Dotted route) (message : α) :
    Holds (tree.addAt route message) (log ++ [(route, message)]) := by
  have happends : Appends [(path route, message)] (ErrorTree.addAt route message) := by
    have hbelow := (appends_add message).changeAt fun s => hroute.isSegment
    rw [List.map_singleton, Prod.map_apply, List.append_nil] at hbelow
    rw [hroute.path_eq]
    exact hbelow
  exact h.append happends

theorem mergeAt (h : Holds tree log) {route : String} (hroute : route = "" ∨ Dotted route)
    (hadded : Holds added more) :
    Holds (ErrorTree.mergeAt route added tree) (log ++ more.map (Prod.map (routeBelow route) id)) := by
  have hpaths : (more.map (Prod.map (routeBelow route) id)).map (Prod.map path id) =
      (more.map (Prod.map path id)).map (Prod.map (path route ++ ·) id) := by
    rw [List.map_map, List.map_map]
    refine List.map_congr_left fun (place, message) _ => ?_
    simp [path_routeBelow]
  refine h.append ?_
  rw [hpaths]
  rcases hroute with rfl | hroute
  · have hsame : (more.map (Prod.map path id)).map (Prod.map (path "" ++ ·) id) =
        more.map (Prod.map path id) := List.map_id _
    rw [hsame]
    exact hadded.appends_merge
  · have hmerge : ErrorTree.mergeAt route added =
        changeAt (fun old => merge old added) (segments route) := by
      funext tree
      simp [ErrorTree.mergeAt, hroute.ne_empty]
    rw [hmerge, hroute.path_eq]
    exact hadded.appends_merge.changeAt fun s => hroute.isSegment

theorem filed_flatten (h : Holds tree log) (route : String) :
    filed route tree.flatten = filed route log := by
  rw [h.ordered.filed_flatten, h.filed_entries, filed_map_of_injective path_injective]

theorem flatten_perm (h : Holds tree log) : tree.flatten.Perm log :=
  perm_of_filed h.filed_flatten

theorem size_eq_length (h : Holds tree log) : tree.size = log.length :=
  (size_eq "" tree).trans h.flatten_perm.length_eq

/-- The messages of a merged tree come after those of the same route. -/
theorem filed_flatten_mergeAt (h : Holds tree log) {route : String}
    (hroute : route = "" ∨ Dotted route) (hadded : Holds added more) (place : String) :
    filed place (ErrorTree.mergeAt route added tree).flatten =
      filed place tree.flatten ++
        filed place (added.flatten.map (Prod.map (routeBelow route) id)) := by
  rw [(h.mergeAt hroute hadded).filed_flatten, filed_append, h.filed_flatten,
    filed_map_congr (routeBelow_injective route) hadded.filed_flatten]

end Holds

/-- A run: a tree holds what was recorded while it was filled. -/
theorem Filing.Routed.holds {s : Filing α} (h : s.Routed) : Holds s.tree s.log := by
  induction s with
  | start => exact ⟨.empty, fun _ => rfl⟩
  | add before message ih => exact (ih h).add message
  | addResult before outcome ih =>
    cases outcome with
    | ok => exact ih h
    | error message => exact (ih h).add message
  | addAt before route message ih => exact (ih h.1).addAt h.2 message
  | merge before added ih ihadded => exact (ih h.1).append (ihadded h.2).appends_merge
  | mergeAt before route added ih ihadded => exact (ih h.1).mergeAt h.2.1 (ihadded h.2.2)

/-- A tree that was filled by any sequence of operations has each recorded message once, under the
full route where it was recorded, and in the order of the records at each route; its size is their
number, and it is a success exactly if there are none.  Merging puts the messages of the merged tree
behind those of the same route.  So a descriptor is accepted exactly if no rule recorded a message. -/
theorem Filing.Routed.keeps_messages {s : Filing α} (hs : s.Routed) :
    (s.tree.size = s.log.length ∧ s.tree.flatten.length = s.log.length) ∧
      (s.tree.result = .ok () ↔ s.log.length = 0) ∧
      s.tree.flatten.Perm s.log ∧
      (∀ route, filed route s.tree.flatten = filed route s.log) ∧
      (∀ added : Filing α, added.Routed →
        (∀ place, filed place (ErrorTree.merge s.tree added.tree).flatten =
          filed place s.tree.flatten ++ filed place added.tree.flatten) ∧
        ∀ route, (route = "" ∨ Dotted route) → ∀ place,
          filed place (ErrorTree.mergeAt route added.tree s.tree).flatten =
            filed place s.tree.flatten ++
              filed place (added.tree.flatten.map (Prod.map (routeBelow route) id))) ∧
      ∀ (t : TypeTable) (o : SynthesisOptions) (d : Descriptor), t.validate o d = .ok () ↔
        (∀ node ∈ t.nodeViolations d, node.2 = []) ∧ t.crossViolations o d = [] := by
  have hholds := hs.holds
  refine ⟨⟨hholds.size_eq_length, hholds.flatten_perm.length_eq⟩, ?_, hholds.flatten_perm,
    hholds.filed_flatten, fun added hadded => ⟨fun place => ?_, fun route hroute place => ?_⟩,
    fun t o d => TypeTable.validate_eq_ok_iff⟩
  · rw [result_eq_ok_iff, hholds.size_eq_length]
  · rw [(hholds.append hadded.holds.appends_merge).filed_flatten, filed_append,
      hholds.filed_flatten, hadded.holds.filed_flatten]
  · exact hholds.filed_flatten_mergeAt hroute hadded.holds place

/-- A message here, one merged below `Person.Age` and one below `Person`. -/
def Filing.ofPerson : Filing String :=
  ((Filing.start.add "type has 2 problems").mergeAt "Person.Age" (Filing.start.add "name is empty")).addAt
    "Person" "duplicate member Age"

theorem Filing.keeps_messages_ofPerson :
    Filing.ofPerson.Routed ∧ Filing.ofPerson.tree.size = 3 ∧
      Filing.ofPerson.tree.flatten.Perm [("", "type has 2 problems"), ("Person.Age", "name is empty"),
        ("Person", "duplicate member Age")] := by
  have hsegments : segments "Person.Age" = ["Person", "Age"] ∧ segments "Person" = ["Person"] := by
    rw [segments, segments, splitOn_dot, splitOn_dot]
    decide
  have hrouted : Filing.ofPerson.Routed := by
    refine ⟨⟨trivial, .inr fun s hs => ?_, trivial⟩, fun s hs => ?_⟩
    · rw [hsegments.1] at hs
      revert s
      decide
    · rw [hsegments.2] at hs
      revert s
      decide
  obtain ⟨⟨hsize, -⟩, -, hperm, -⟩ := Filing.Routed.keeps_messages hrouted
  exact ⟨hrouted, hsize, hperm⟩

end ErrorTree
end Reshape
