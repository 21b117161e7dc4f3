import Ecosystem.Lib.Dict
import Ecosystem.Lib.Table

/-!
# Authenticated logs

Entries carry their place, the hash of the entry before them, their own hash and a tag.
`verify` recomputes all of it; what `append` writes it accepts.  `latest` collects the
last report of each row, and `inventory` the rows that are there.
-/

namespace Ecosystem.Lib

structure LogEntry (β : Type) where
  sequence : ℕ
  body : β
  previousEntryHash : String
  entryHash : String
  hmacTag : String
  keyId : String

/-- How a log is authenticated: the hash of an entry, the tag of a hash, the id of
the key, and the hash that stands before the first entry. -/
structure LogKeys (β : Type) where
  hash : ℕ → β → String → String
  tag : String → String
  keyId : String
  genesis : String

namespace LogKeys

variable {β : Type} (keys : LogKeys β)

def next (log : List (LogEntry β)) : ℕ × String :=
  log.getLast?.elim (1, keys.genesis) fun e => (e.sequence + 1, e.entryHash)

def entry (at_ : ℕ × String) (body : β) : LogEntry β where
  sequence := at_.1
  body := body
  previousEntryHash := at_.2
  entryHash := keys.hash at_.1 body at_.2
  hmacTag := keys.tag (keys.hash at_.1 body at_.2)
  keyId := keys.keyId

def append (log : List (LogEntry β)) (body : β) : List (LogEntry β) :=
  log ++ [keys.entry (keys.next log) body]

/-- One entry is recomputed from its body. -/
def accepts (at_ : ℕ × String) (e : LogEntry β) : Bool :=
  e.sequence = at_.1 && e.previousEntryHash = at_.2 &&
    e.entryHash = keys.hash e.sequence e.body e.previousEntryHash &&
    e.keyId = keys.keyId &&
    e.hmacTag = keys.tag (keys.hash e.sequence e.body e.previousEntryHash)

def verifyFrom : ℕ × String → List (LogEntry β) → Bool
  | _, [] => true
  | at_, e :: log => keys.accepts at_ e && verifyFrom (at_.1 + 1, e.entryHash) log

def verify (log : List (LogEntry β)) : Bool :=
  keys.verifyFrom (1, keys.genesis) log

theorem accepts_entry (at_ : ℕ × String) (body : β) :
    keys.accepts at_ (keys.entry at_ body) = true := by
  simp [accepts, entry]

theorem verifyFrom_concat (at_ : ℕ × String) (log : List (LogEntry β))
    (e : LogEntry β) (hat : log = [] → keys.next log = at_) :
    keys.verifyFrom at_ (log ++ [e]) =
      (keys.verifyFrom at_ log && keys.accepts (keys.next log) e) := by
  induction log generalizing at_ with
  | nil => simp [verifyFrom, hat rfl]
  | cons x log ih =>
    by_cases hx : keys.accepts at_ x = true
    · have hseq : x.sequence = at_.1 := by
        simp only [accepts, Bool.and_eq_true, decide_eq_true_eq] at hx
        exact hx.1.1.1.1
      cases log with
      | nil => simp [verifyFrom, hx, next, hseq]
      | cons y log =>
        have hnext : keys.next (x :: y :: log) = keys.next (y :: log) := by
          simp [next, List.getLast?_cons_cons]
        rw [hnext, List.cons_append]
        simp only [verifyFrom, hx, Bool.true_and]
        exact ih (at_.1 + 1, x.entryHash) (by simp)
    · rw [List.cons_append]
      simp [verifyFrom, hx]

/-- **What is appended verifies.** -/
theorem verify_append {log : List (LogEntry β)} (body : β)
    (h : keys.verify log = true) : keys.verify (keys.append log body) = true := by
  rw [verify, append, verifyFrom_concat _ _ _ _ (by rintro rfl; rfl), accepts_entry,
    Bool.and_true]
  exact h

end LogKeys

/-! ## The last report of each row -/

section Latest

variable {β κ δ : Type} [DecidableEq κ]

def latest (key : β → κ) (digest : β → δ) (log : List (LogEntry β)) : Dict κ δ :=
  log.foldl (fun d e => d.insert (key e.body) (digest e.body)) ∅

theorem lookup_latest_append (keys : LogKeys β) (key : β → κ) (digest : β → δ)
    (log : List (LogEntry β)) (body : β) (k : κ) :
    (latest key digest (keys.append log body)).lookup k =
      if k = key body then some (digest body) else (latest key digest log).lookup k := by
  rw [latest, LogKeys.append, List.foldl_append]
  exact Dict.lookup_insert_ite

end Latest

/-! ## The inventory of live rows -/

section Inventory

variable {τ κ ρ δ : Type} [DecidableEq τ] [DecidableEq κ]

def inventory (tag : τ) (digest : κ → ρ → δ) (table : Table κ ρ)
    (live : Dict (τ × κ) δ) : Dict (τ × κ) δ :=
  table.entries.foldl (fun live e => live.insert (tag, e.1) (digest e.1 e.2)) live

theorem lookup_inventory (tag : τ) (digest : κ → ρ → δ) (table : Table κ ρ)
    (live : Dict (τ × κ) δ) (k : τ × κ) :
    (inventory tag digest table live).lookup k =
      if k.1 = tag then ((table.get? k.2).map (digest k.2)).or (live.lookup k)
      else live.lookup k := by
  have hall : ∀ (entries : List (κ × ρ)) (live : Dict (τ × κ) δ),
      (entries.map Prod.fst).Nodup →
      (entries.foldl (fun live e => live.insert (tag, e.1) (digest e.1 e.2))
        live).lookup k =
      if k.1 = tag then
        ((entries.find? fun e => e.1 = k.2).map fun e => digest k.2 e.2).or
          (live.lookup k)
      else live.lookup k := by
    intro entries
    induction entries with
    | nil => simp
    | cons e entries ih =>
      intro live hunique
      rw [List.map_cons, List.nodup_cons] at hunique
      rw [List.foldl_cons, ih _ hunique.2, Dict.lookup_insert_ite]
      obtain ⟨tag', id⟩ := k
      by_cases htag : tag' = tag
      · subst htag
        by_cases hid : id = e.1
        · subst hid
          have hnone : entries.find? (fun e' => decide (e'.1 = e.1)) = none := by
            rw [List.find?_eq_none]
            intro e' he' heq
            exact hunique.1 (List.mem_map.mpr ⟨e', he', of_decide_eq_true heq⟩)
          simp [hnone]
        · simp [hid, Ne.symm hid]
      · simp [htag]
  rw [inventory, hall table.entries live table.unique, Table.get?, Option.map_map]
  rfl

end Inventory

end Ecosystem.Lib
