/-
How long the search for a name takes.

`Table.Searches` is the recursion of the search with nothing that could cut it short: a call
gives up at a key met before, answers what the key is bound to, or goes on with one or two
further calls.  A derivation of it is a search that has come to its end, and it counts the
calls.  Neither the names nor the table get smaller on the way: an alias can lead to a longer
name, and a member goes on under a name put together anew.  What gets smaller is the number of
keys that are left to be met (`Table.unmet`), among the finitely many of `Table.within`:

* `Table.Searches.calls_le` — a search makes at most one call more than twice the keys it adds;
* `Table.exists_searches` — from any key of the collection the search comes to its end, and
  finds what a search of enough depth finds;
* `Table.search_ends` — in every table that calls build, and for every name.
-/
import Marginalia.Proofs.NameSearch

namespace Marginalia

namespace Table

/-- The declaration of the submodule that a key can stand for. -/
def submodule? (t : Table) (key : NameKey) : Option Identity :=
  match t.binding? (submoduleKey key) with
  | some (.declared i) => some i
  | _ => none

/-- The search for a key when some keys were met before: the calls it makes, what it finds, and
the keys met afterwards.  There is a rule for each way that a call can go; none of them lets an
owner be without an entry. -/
inductive Searches (t : Table) :
    NameKey → List NameKey → Nat → Option Identity → List NameKey → Prop
  | again {key : NameKey} {seen : List NameKey} (met : key ∈ seen) : Searches t key seen 1 none seen
  | declared {key : NameKey} {seen : List NameKey} {i : Identity} (new : key ∉ seen)
    (bound : t.binding? key = some (.declared i)) : Searches t key seen 1 (some i) (key :: seen)
  | sameAs {key target : NameKey} {seen seen' : List NameKey} {n : Nat} {found : Option Identity}
    (new : key ∉ seen) (bound : t.binding? key = some (.sameAs target))
    (rest : Searches t target (key :: seen) n found seen') : Searches t key seen (n + 1) found seen'
  | plain {key : NameKey} {seen : List NameKey} (new : key ∉ seen)
    (unbound : t.binding? key = none) (plain : Dotted.splitLast? key.2 = none) :
    Searches t key seen 1 (t.submodule? key) (key :: seen)
  | headless {key : NameKey} {head x : String} {seen seen' : List NameKey} {n : Nat}
    (new : key ∉ seen) (unbound : t.binding? key = none)
    (dotted : Dotted.splitLast? key.2 = some (head, x))
    (first : Searches t (key.1, head) (key :: seen) n none seen') :
    Searches t key seen (n + 1) none seen'
  | ownMember {key : NameKey} {head x : String} {seen seen' : List NameKey} {n : Nat} {i : Identity}
    {owner : Declaration} (new : key ∉ seen) (unbound : t.binding? key = none)
    (dotted : Dotted.splitLast? key.2 = some (head, x))
    (first : Searches t (key.1, head) (key :: seen) n (some i) seen')
    (entry : t.entry? i = some owner) (same : memberKey owner x = key) :
    Searches t key seen (n + 1) none seen'
  | member {key : NameKey} {head x : String} {seen seen' seen'' : List NameKey} {n n' : Nat}
    {i : Identity} {found : Option Identity} {owner : Declaration} (new : key ∉ seen)
    (unbound : t.binding? key = none) (dotted : Dotted.splitLast? key.2 = some (head, x))
    (first : Searches t (key.1, head) (key :: seen) n (some i) seen')
    (entry : t.entry? i = some owner) (other : memberKey owner x ≠ key)
    (rest : Searches t (memberKey owner x) seen' n' found seen'') :
    Searches t key seen (n + n' + 1) found seen''

variable {t : Table} {key origin : NameKey} {seen seen' : List NameKey} {n n' : Nat}
  {found found' : Option Identity}

namespace Searches

/-! ### A search that has come to its end -/

/-- The ways that a search for an unbound name of several parts can go. -/
theorem of_dotted {head x : String} (h : t.Searches key seen n found seen') (new : key ∉ seen)
    (unbound : t.binding? key = none) (dotted : Dotted.splitLast? key.2 = some (head, x)) :
    ∃ n₁ found₁ seen₁, t.Searches (key.1, head) (key :: seen) n₁ found₁ seen₁ ∧
      ((found₁ = none ∧ n = n₁ + 1 ∧ found = none ∧ seen' = seen₁) ∨
        ∃ i owner, found₁ = some i ∧ t.entry? i = some owner ∧
          ((memberKey owner x = key ∧ n = n₁ + 1 ∧ found = none ∧ seen' = seen₁) ∨
            (memberKey owner x ≠ key ∧
              ∃ n₂, t.Searches (memberKey owner x) seen₁ n₂ found seen' ∧ n = n₁ + n₂ + 1))) := by
  cases h with
  | headless new' unbound' dotted' first =>
    rw [dotted] at dotted'
    cases dotted'
    exact ⟨_, _, _, first, .inl ⟨rfl, rfl, rfl, rfl⟩⟩
  | ownMember new' unbound' dotted' first entry same =>
    rw [dotted] at dotted'
    cases dotted'
    exact ⟨_, _, _, first, .inr ⟨_, _, rfl, entry, .inl ⟨same, rfl, rfl, rfl⟩⟩⟩
  | member new' unbound' dotted' first entry other rest =>
    rw [dotted] at dotted'
    cases dotted'
    exact ⟨_, _, _, first, .inr ⟨_, _, rfl, entry, .inr ⟨other, _, rest, rfl⟩⟩⟩
  | _ => simp_all

theorem unique (h : t.Searches key seen n found seen') {seen'' : List NameKey}
    (h' : t.Searches key seen n' found' seen'') : n' = n ∧ found' = found ∧ seen'' = seen' := by
  induction h generalizing n' found' seen'' with
  | again met => cases h' <;> simp_all
  | declared new bound => cases h' <;> simp_all
  | plain new unbound plain => cases h' <;> simp_all
  | sameAs new bound rest ih =>
    cases h' with
    | sameAs new' bound' rest' =>
      rw [bound] at bound'
      cases bound'
      obtain ⟨rfl, rfl, rfl⟩ := ih rest'
      exact ⟨rfl, rfl, rfl⟩
    | _ => simp_all
  | headless new unbound dotted first ih =>
    obtain ⟨n₁, found₁, seen₁, first', hafter⟩ := h'.of_dotted new unbound dotted
    obtain ⟨rfl, rfl, rfl⟩ := ih first'
    simpa using hafter
  | ownMember new unbound dotted first entry same ih =>
    obtain ⟨n₁, found₁, seen₁, first', hafter⟩ := h'.of_dotted new unbound dotted
    obtain ⟨rfl, rfl, rfl⟩ := ih first'
    simpa [entry, same] using hafter
  | member new unbound dotted first entry other rest ih ih' =>
    obtain ⟨n₁, found₁, seen₁, first', hafter⟩ := h'.of_dotted new unbound dotted
    obtain ⟨rfl, rfl, rfl⟩ := ih first'
    obtain ⟨n₂, rest', rfl⟩ : ∃ n₂, t.Searches _ seen₁ n₂ found' seen'' ∧ n' = n₁ + n₂ + 1 := by
      simpa [entry, other] using hafter
    obtain ⟨rfl, rfl, rfl⟩ := ih' rest'
    exact ⟨rfl, rfl, rfl⟩

/-- A search forgets no key. -/
theorem subset (h : t.Searches key seen n found seen') : seen ⊆ seen' := by
  induction h with
  | again met => exact List.Subset.refl _
  | declared new bound => exact List.subset_cons_self _ _
  | plain new unbound plain => exact List.subset_cons_self _ _
  | sameAs new bound rest ih => exact List.Subset.trans (List.subset_cons_self _ _) ih
  | headless new unbound dotted first ih => exact List.Subset.trans (List.subset_cons_self _ _) ih
  | ownMember new unbound dotted first entry same ih =>
    exact List.Subset.trans (List.subset_cons_self _ _) ih
  | member new unbound dotted first entry other rest ih ih' =>
    exact List.Subset.trans (List.subset_cons_self _ _) (List.Subset.trans ih ih')

/-- A search adds no key twice. -/
theorem nodup (h : t.Searches key seen n found seen') (hseen : seen.Nodup) : seen'.Nodup := by
  induction h with
  | again met => exact hseen
  | declared new bound => exact List.nodup_cons.mpr ⟨new, hseen⟩
  | plain new unbound plain => exact List.nodup_cons.mpr ⟨new, hseen⟩
  | sameAs new bound rest ih => exact ih (List.nodup_cons.mpr ⟨new, hseen⟩)
  | headless new unbound dotted first ih => exact ih (List.nodup_cons.mpr ⟨new, hseen⟩)
  | ownMember new unbound dotted first entry same ih => exact ih (List.nodup_cons.mpr ⟨new, hseen⟩)
  | member new unbound dotted first entry other rest ih ih' =>
    exact ih' (ih (List.nodup_cons.mpr ⟨new, hseen⟩))

/-- A search stays among the keys that can be met. -/
theorem subset_within (h : t.Searches key seen n found seen') (hkey : key ∈ t.within origin)
    (hseen : seen ⊆ t.within origin) : seen' ⊆ t.within origin := by
  induction h with
  | again met => exact hseen
  | declared new bound => exact List.cons_subset.mpr ⟨hkey, hseen⟩
  | plain new unbound plain => exact List.cons_subset.mpr ⟨hkey, hseen⟩
  | sameAs new bound rest ih =>
    exact ih (List.mem_append_left _ (target_mem_spelled bound))
      (List.cons_subset.mpr ⟨hkey, hseen⟩)
  | headless new unbound dotted first ih =>
    have hhead := (member_mem_within hkey dotted).1
    exact ih (List.mem_append_left _ hhead) (List.cons_subset.mpr ⟨hkey, hseen⟩)
  | ownMember new unbound dotted first entry same ih =>
    have hhead := (member_mem_within hkey dotted).1
    exact ih (List.mem_append_left _ hhead) (List.cons_subset.mpr ⟨hkey, hseen⟩)
  | member new unbound dotted first entry other rest ih ih' =>
    obtain ⟨hhead, hmember⟩ := member_mem_within hkey dotted
    have hmiddle := ih (List.mem_append_left _ hhead) (List.cons_subset.mpr ⟨hkey, hseen⟩)
    exact ih' (hmember _ (entry_mem entry)) hmiddle

/-- Each call meets a new key, from which at most two calls are made, or is the last on its way. -/
theorem calls_le (h : t.Searches key seen n found seen') :
    n + 2 * seen.length ≤ 2 * seen'.length + 1 := by
  induction h with
  | again met => omega
  | declared new bound => simp only [List.length_cons]; omega
  | plain new unbound plain => simp only [List.length_cons]; omega
  | sameAs new bound rest ih => simp only [List.length_cons] at ih; omega
  | headless new unbound dotted first ih => simp only [List.length_cons] at ih; omega
  | ownMember new unbound dotted first entry same ih => simp only [List.length_cons] at ih; omega
  | member new unbound dotted first entry other rest ih ih' =>
    simp only [List.length_cons] at ih
    omega

end Searches

/-! ### Every search comes to its end -/

/-- The number of keys that a search for a key can still meet. -/
def unmet (t : Table) (origin : NameKey) (seen : List NameKey) : Nat :=
  ((t.within origin).toFinset \ seen.toFinset).card

/-- The measure of the search: meeting a key leaves one key less. -/
theorem unmet_cons (hkey : key ∈ t.within origin) (hnew : key ∉ seen) :
    t.unmet origin (key :: seen) < t.unmet origin seen := by
  refine Finset.card_lt_card ⟨?_, ?_⟩
  · intro k hk
    simp only [List.toFinset_cons, Finset.mem_sdiff, Finset.mem_insert, not_or] at hk ⊢
    exact ⟨hk.1, hk.2.2⟩
  · -- the inclusion is strict, since the key itself is met now and was not before
    intro hsubset
    have hmem : key ∈ (t.within origin).toFinset \ (key :: seen).toFinset :=
      hsubset (by simp [hkey, hnew])
    simp at hmem

theorem unmet_le (h : seen ⊆ seen') : t.unmet origin seen' ≤ t.unmet origin seen := by
  refine Finset.card_le_card (Finset.sdiff_subset_sdiff (Finset.Subset.refl _) ?_)
  intro k hk
  exact List.mem_toFinset.mpr (h (List.mem_toFinset.mp hk))

/-- What a search finds has an entry. -/
theorem Coherent.entry_of_search (h : t.Coherent) {depth : Nat} {i : Identity}
    (hfound : t.search depth key seen = (some i, seen')) : ∃ owner, t.entry? i = some owner := by
  obtain ⟨trail, hleads, -⟩ := search_eq_some hfound
  obtain ⟨k, hk⟩ := hleads.exists_bound
  obtain ⟨d, -, hentry, -⟩ := h.entry_of_binding? hk
  exact ⟨d, hentry⟩

/-- A search that goes deeper than there are keys to be met is not cut short. -/
theorem exists_searches (h : t.Coherent) {depth : Nat} (hkey : key ∈ t.within origin)
    (hdepth : t.unmet origin seen < depth) :
    ∃ n, t.Searches key seen n (t.search depth key seen).1 (t.search depth key seen).2 := by
  induction depth generalizing key seen with
  | zero => omega
  | succ depth ih =>
    rw [search]
    by_cases hmet : key ∈ seen
    · rw [if_pos hmet]
      exact ⟨1, .again hmet⟩
    rw [if_neg hmet]
    -- the measure that carries the induction: both further calls start with fewer keys unmet
    have hfewer : t.unmet origin (key :: seen) < depth := by
      have := unmet_cons hkey hmet
      omega
    dsimp only
    rcases hbinding : t.binding? key with _ | i | target
    · rcases hsplit : Dotted.splitLast? key.2 with _ | ⟨head, x⟩
      · have hsubmodule := Searches.plain hmet hbinding hsplit
        refine ⟨1, ?_⟩
        dsimp only
        unfold submodule? at hsubmodule
        split <;> simp_all
      · obtain ⟨hhead, hmember⟩ := member_mem_within hkey hsplit
        obtain ⟨n, hfirst⟩ := ih (List.mem_append_left _ hhead) hfewer
        rcases hsearch : t.search depth (key.1, head) (key :: seen) with ⟨_ | i, seen'⟩
        · rw [hsearch] at hfirst
          dsimp only
          rw [hsearch]
          exact ⟨n + 1, .headless hmet hbinding hsplit hfirst⟩
        · rw [hsearch] at hfirst
          obtain ⟨owner, hentry⟩ := h.entry_of_search hsearch
          dsimp only
          rw [hsearch]
          dsimp only
          rw [hentry]
          dsimp only
          by_cases hsame : memberKey owner x = key
          · rw [if_pos hsame]
            exact ⟨n + 1, .ownMember hmet hbinding hsplit hfirst hentry hsame⟩
          · rw [if_neg hsame]
            have hfewer' : t.unmet origin seen' < depth :=
              (unmet_le hfirst.subset).trans_lt hfewer
            obtain ⟨n', hrest⟩ := ih (hmember owner (entry_mem hentry)) hfewer'
            exact ⟨n + n' + 1, .member hmet hbinding hsplit hfirst hentry hsame hrest⟩
    · exact ⟨1, .declared hmet hbinding⟩
    · obtain ⟨n, hrest⟩ := ih (List.mem_append_left _ (target_mem_spelled hbinding)) hfewer
      exact ⟨n + 1, .sameAs hmet hbinding hrest⟩

theorem unmet_le_keyBound (t : Table) (key : NameKey) (seen : List NameKey) :
    t.unmet key seen ≤ t.keyBound key.2 :=
  (Finset.card_le_card Finset.sdiff_subset).trans
    ((List.toFinset_card_le _).trans (t.length_within_le key))

/-- **Every search for a name ends.**  In every table that declarations and aliases build, the
recursion for a name comes to its end, with aliases that go in a circle or lead to longer names
as well; it has one course only, which finds what the name denotes, and it makes no more calls
than the table and the length of the name allow. -/
theorem search_ends (token : Int) (calls : List Call) (module name : String) :
    ∃ n, (run token calls).Searches (module, name) [] n
        ((run token calls).resolve? module name) ((run token calls).met module name) ∧
      n ≤ 2 * (run token calls).keyBound name + 1 ∧
      ∀ n' found seen, (run token calls).Searches (module, name) [] n' found seen →
        n' = n ∧ found = (run token calls).resolve? module name := by
  have hcoherent := coherent_run token calls
  generalize run token calls = t at hcoherent ⊢
  have hkey : (module, name) ∈ t.within (module, name) :=
    List.mem_append_left _ (t.mem_spelled_self _)
  have hdepth : t.unmet (module, name) [] < t.keyBound name + 1 :=
    Nat.lt_succ_of_le (t.unmet_le_keyBound (module, name) [])
  obtain ⟨n, hsearch⟩ := exists_searches hcoherent hkey hdepth
  refine ⟨n, hsearch, ?_, fun n' found seen h' => ?_⟩
  · -- the keys that were met are distinct and among finitely many
    have hcalls := hsearch.calls_le
    have hinside := hsearch.subset_within hkey (List.nil_subset _)
    have hlength := (List.Nodup.subperm (hsearch.nodup List.nodup_nil) hinside).length_le
    have hbound := t.length_within_le (module, name)
    simp only [List.length_nil] at hcalls hlength hbound
    omega
  · obtain ⟨hn, hfound, -⟩ := hsearch.unique h'
    exact ⟨hn, hfound⟩

/-- Two names that are made each other's alias, one of them as a member of the other. -/
def circleCalls : List Call := [.addAlias "m" "f" "m" "g.h", .addAlias "m" "g" "m" "f"]

theorem search_ends_circle :
    (run 1 circleCalls).resolve? "m" "f" = none ∧
      ∃ n, (run 1 circleCalls).Searches ("m", "f") [] n none ((run 1 circleCalls).met "m" "f") ∧
        n ≤ 2 * (run 1 circleCalls).keyBound "f" + 1 := by
  have hnothing : (run 1 circleCalls).resolve? "m" "f" = none := by decide +kernel
  obtain ⟨n, hsearch, hcalls, -⟩ := search_ends 1 circleCalls "m" "f"
  rw [hnothing] at hsearch
  exact ⟨hnothing, n, hsearch, hcalls⟩

end Table

end Marginalia
