/-!
# Following links outwards

Objects are linked to their prototype, scopes to the scope around them. Three questions of the
library have one shape: walk from a node along its links, the node itself first, and stop at the
first one that answers. `firstAlong` is that walk. A link graph may in principle run in a circle,
so the walk is given a number of nodes to visit; the graphs of this library have no circles, and
their callers pass the number of nodes that exist, which no chain exceeds.

`Chain next a l` says that following `next` from `a` meets exactly the nodes `l` and then ends.
It is how the walk is described without its bound: `firstAlong_eq_findSome?`.
-/

namespace FunctionObjects

variable {α β : Type}

/-- The first answer of `f` among at most `bound` nodes met from `a` along `next`. -/
def firstAlong (next : α → Option α) (f : α → Option β) : (bound : Nat) → (a : α) → Option β
  | 0, _ => none
  | bound + 1, a =>
    match f a with
    | some b => some b
    | none => (next a).bind (firstAlong next f bound)

/-- Following `next` from the first node meets the nodes of the list in order, and ends there. -/
inductive Chain (next : α → Option α) : α → List α → Prop
  | last {a : α} : next a = none → Chain next a [a]
  | link {a b : α} {l : List α} : next a = some b → Chain next b l → Chain next a (a :: l)

namespace Chain

variable {next : α → Option α}

/-- There is at most one chain from a node. -/
theorem unique {a : α} {l l' : List α} (h : Chain next a l) (h' : Chain next a l') : l = l' := by
  induction h generalizing l' with
  | last hn => cases h' with
    | last => rfl
    | link hn' => rw [hn] at hn'; cases hn'
  | link hn _ ih => cases h' with
    | last hn' => rw [hn] at hn'; cases hn'
    | link hn' hc => rw [hn] at hn'; cases hn'; rw [ih hc]

/-- A chain begins with its first node. -/
theorem head_mem {a : α} {l : List α} (h : Chain next a l) : a ∈ l := by
  cases h <;> simp

/-- From every node of a chain the rest of it is a chain. -/
theorem tail_of_mem {a b : α} {l : List α} (h : Chain next a l) (hb : b ∈ l) :
    ∃ pre rest, l = pre ++ rest ∧ Chain next b rest := by
  induction h with
  | last hn =>
    cases List.mem_singleton.1 hb
    exact ⟨[], _, rfl, .last hn⟩
  | @link a c l hn hc ih =>
    rcases List.mem_cons.1 hb with rfl | hb
    · exact ⟨[], _, rfl, .link hn hc⟩
    · obtain ⟨pre, rest, rfl, hr⟩ := ih hb
      exact ⟨a :: pre, rest, rfl, hr⟩

/-- No node occurs twice on a chain that ends. -/
theorem nodup {a : α} {l : List α} (h : Chain next a l) : l.Nodup := by
  induction h with
  | last => exact List.nodup_cons.2 ⟨List.not_mem_nil, List.nodup_nil⟩
  | @link a b l hn hc ih =>
    refine List.nodup_cons.2 ⟨fun ha => ?_, ih⟩
    obtain ⟨pre, rest, hl, hr⟩ := hc.tail_of_mem ha
    have := congrArg List.length (hr.unique (.link hn hc))
    rw [hl] at this
    simp at this
    omega

/-- A chain from which no link is taken away is still there. -/
theorem congr {next' : α → Option α} {a : α} {l : List α} (h : Chain next a l)
    (hn : ∀ b ∈ l, next' b = next b) : Chain next' a l := by
  induction h with
  | @last a ha => exact .last ((hn a (by simp)).trans ha)
  | @link a b l ha _ ih =>
    have hb : next' a = some b := (hn a (by simp)).trans ha
    exact .link hb (ih fun c hc => hn c (by simp [hc]))

/-- Redirecting one node leaves every chain finite, as long as that node is not met on the way
from the new target. -/
theorem redirect [DecidableEq α] {o : α} {p : Option α}
    (hp : ∀ q, p = some q → ∃ l, Chain next q l ∧ o ∉ l) {a : α} {l : List α}
    (h : Chain next a l) : ∃ l', Chain (fun b => if b = o then p else next b) a l' := by
  have ho : ∃ l', Chain (fun b => if b = o then p else next b) o l' := by
    cases hq : p with
    | none => exact ⟨[o], .last (by simp)⟩
    | some q =>
      obtain ⟨l, hl, hol⟩ := hp q hq
      refine ⟨o :: l, .link (by simp) (hl.congr fun b hb => if_neg ?_)⟩
      rintro rfl
      exact hol hb
  induction h with
  | @last a ha =>
    by_cases hao : a = o
    · exact hao ▸ ho
    · exact ⟨[a], .last (by simp [hao, ha])⟩
  | @link a b l ha _ ih =>
    by_cases hao : a = o
    · exact hao ▸ ho
    · obtain ⟨l', hl'⟩ := ih
      exact ⟨a :: l', .link (by simp [hao, ha]) hl'⟩

/-- What holds of the first node, and of a node whenever of the one before it, holds on the whole
chain. -/
theorem forall_mem {p : α → Prop} (hp : ∀ a b, p a → next a = some b → p b) {a : α} {l : List α}
    (h : Chain next a l) (ha : p a) : ∀ b ∈ l, p b := by
  induction h with
  | last => simpa using ha
  | @link a b l hab _ ih =>
    intro c hc
    rcases List.mem_cons.1 hc with rfl | hc
    · exact ha
    · exact ih (hp a b ha hab) c hc

/-- Where an index falls along the links, every chain ends, and it is no longer than the index
allows. -/
theorem exists_of_index_lt {index : α → Nat} (hlt : ∀ a b, next a = some b → index b < index a)
    (a : α) : ∃ l, Chain next a l ∧ l.length ≤ index a + 1 ∧ ∀ b ∈ l, index b ≤ index a := by
  induction hn : index a using Nat.strongRecOn generalizing a with
  | _ n ih =>
    subst hn
    cases hb : next a with
    | none => exact ⟨[a], .last hb, by simp, by simp⟩
    | some b =>
      have hba := hlt a b hb
      obtain ⟨l, hl, hlength, hindex⟩ := ih (index b) hba b rfl
      refine ⟨a :: l, .link hb hl, ?_, ?_⟩
      · rw [List.length_cons]
        omega
      · intro c hc
        rcases List.mem_cons.1 hc with rfl | hc
        · exact Nat.le_refl _
        · exact Nat.le_trans (hindex c hc) (Nat.le_of_lt hba)

/-- A node from which a chain ends can be recursed on along the links. -/
theorem acc {a : α} {l : List α} (h : Chain next a l) : Acc (fun b a => next a = some b) a := by
  induction h with
  | last hn => exact ⟨_, fun b hb => by rw [hn] at hb; cases hb⟩
  | link hn _ ih => exact ⟨_, fun b hb => by rw [hn] at hb; cases hb; exact ih⟩

end Chain

/-- `Leads next p b a`: following `next` from `a` one comes to `b`, and all nodes before `b` satisfy
`p`. -/
inductive Leads (next : α → Option α) (p : α → Prop) (b : α) : α → Prop
  | here : Leads next p b b
  | link {a a' : α} : p a → next a = some a' → Leads next p b a' → Leads next p b a

/-- The first node that does not satisfy `p` is the only one to which one comes. -/
theorem Leads.unique {next : α → Option α} {p : α → Prop} {a b b' : α} (h : Leads next p b a)
    (h' : Leads next p b' a) (hb : ¬ p b) (hb' : ¬ p b') : b = b' := by
  induction h with
  | here => cases h' with
    | here => rfl
    | link ha => exact absurd ha hb
  | link ha hn _ ih => cases h' with
    | here => exact absurd ha hb'
    | link _ hn' hl =>
      cases hn.symm.trans hn'
      exact ih hl

/-- To which nodes one comes depends on these nodes only. -/
theorem leads_congr {next next' : α → Option α} {p p' : α → Prop} {a b : α}
    (h : ∀ c, Leads next p c a → next' c = next c ∧ (p' c ↔ p c)) :
    Leads next' p' b a ↔ Leads next p b a := by
  constructor
  · intro hb
    induction hb with
    | here => exact .here
    | link hp hn _ ih =>
      obtain ⟨hnext, hiff⟩ := h _ .here
      rw [hnext] at hn
      exact .link (hiff.1 hp) hn (ih fun c hc => h c (.link (hiff.1 hp) hn hc))
  · intro hb
    induction hb with
    | here => exact .here
    | link hp hn _ ih =>
      obtain ⟨hnext, hiff⟩ := h _ .here
      exact .link (hiff.2 hp) (hnext.trans hn) (ih fun c hc => h c (.link hp hn hc))

/-- The nodes to which one comes are those on the chain before which all satisfy `p`. -/
theorem Chain.leads_iff {next : α → Option α} {p : α → Prop} {a b : α} {l : List α}
    (h : Chain next a l) :
    Leads next p b a ↔ ∃ before after, l = before ++ b :: after ∧ ∀ c ∈ before, p c := by
  constructor
  · intro hb
    induction hb generalizing l with
    | here =>
      obtain ⟨rest, rfl⟩ : ∃ rest, l = b :: rest := by
        cases h <;> exact ⟨_, rfl⟩
      exact ⟨[], rest, rfl, by simp⟩
    | @link a a' hp hn _ ih =>
      cases h with
      | last hnone =>
        rw [hnone] at hn
        cases hn
      | link hn' hc =>
        cases hn'.symm.trans hn
        obtain ⟨before, after, rfl, hbefore⟩ := ih hc
        exact ⟨a :: before, after, rfl, by simpa using ⟨hp, hbefore⟩⟩
  · rintro ⟨before, after, hl, hbefore⟩
    induction h generalizing before with
    | last =>
      cases before with
      | nil =>
        cases hl
        exact .here
      | cons c before => simp at hl
    | link hn _ ih =>
      cases before with
      | nil =>
        cases hl
        exact .here
      | cons c before =>
        obtain ⟨rfl, hrest⟩ := List.cons.inj hl
        exact .link (hbefore _ (by simp)) hn (ih before hrest fun d hd => hbefore d (by simp [hd]))

/-- On a chain no longer than the bound, the walk finds the first answer on the chain. -/
theorem firstAlong_eq_findSome? {next : α → Option α} {f : α → Option β} {a : α} {l : List α}
    (h : Chain next a l) {bound : Nat} (hb : l.length ≤ bound) :
    firstAlong next f bound a = l.findSome? f := by
  induction h generalizing bound with
  | last hn => match bound, hb with
    | n + 1, _ => simp only [firstAlong, hn, List.findSome?]; cases f _ <;> rfl
  | link hn _ ih => match bound, hb with
    | n + 1, hb =>
      simp only [firstAlong, hn, List.findSome?, Option.bind_some]
      cases f _ with
      | none => exact ih (Nat.le_of_succ_le_succ hb)
      | some _ => rfl

/-- The first answer on a chain is that of a node to which one comes past nodes without answer. -/
theorem Chain.findSome?_eq_some_iff {next : α → Option α} {f : α → Option β} {a : α} {l : List α}
    (h : Chain next a l) {x : β} :
    l.findSome? f = some x ↔ ∃ b, f b = some x ∧ Leads next (fun c => f c = none) b a := by
  induction h with
  | @last a hn =>
    constructor
    · intro hx
      obtain ⟨b, hb, hbx⟩ := List.exists_of_findSome?_eq_some hx
      cases List.mem_singleton.1 hb
      exact ⟨a, hbx, .here⟩
    · rintro ⟨b, hb, _ | ⟨-, hlink, -⟩⟩
      · simp [List.findSome?, hb]
      · rw [hn] at hlink
        cases hlink
  | @link a a' l hn _ ih =>
    cases ha : f a with
    | some y =>
      simp only [List.findSome?, ha]
      constructor
      · rintro ⟨⟩
        exact ⟨a, ha, .here⟩
      · rintro ⟨b, hb, _ | ⟨hnone, -, -⟩⟩
        · exact ha.symm.trans hb
        · rw [ha] at hnone
          cases hnone
    | none =>
      simp only [List.findSome?, ha, ih]
      constructor
      · rintro ⟨b, hb, hleads⟩
        exact ⟨b, hb, .link ha hn hleads⟩
      · rintro ⟨b, hb, _ | ⟨-, hlink, hleads⟩⟩
        · rw [ha] at hb
          cases hb
        · cases hn.symm.trans hlink
          exact ⟨b, hb, hleads⟩

end FunctionObjects
