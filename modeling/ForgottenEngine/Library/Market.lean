import Mathlib

/-!
# Trading at quoted prices

Somebody holds gold and goods, and trades with dealers: each quotes what he gives for one unit of a
good, and what he asks for one.  Goods may also get lost on the way.

* `Trade`, `Trades` — one trade at the quotes, and any number of them;
* `Fair` — a worth of the goods that no dealer pays more than, and none asks less than;
* `Trades.wealth_le` — **nobody gets richer by trading**, when the worth is fair.
-/

namespace Market

variable {κ : Type*}

/-- What is given for a unit of a good, and what is asked for one. -/
structure Quotes (κ : Type*) where
  bids : κ → Set ℕ
  asks : κ → Set ℕ

structure Account (κ : Type*) where
  gold : ℕ
  goods : Multiset κ

inductive Trade (quotes : Quotes κ) : Account κ → Account κ → Prop
  | buy {gold n ask : ℕ} {goods : Multiset κ} {k : κ} : ask ∈ quotes.asks k →
      Trade quotes ⟨n * ask + gold, goods⟩ ⟨gold, goods + Multiset.replicate n k⟩
  | sell {gold n bid : ℕ} {goods : Multiset κ} {k : κ} : bid ∈ quotes.bids k →
      Trade quotes ⟨gold, goods + Multiset.replicate n k⟩ ⟨n * bid + gold, goods⟩
  | lose {gold : ℕ} {goods lost : Multiset κ} : Trade quotes ⟨gold, goods + lost⟩ ⟨gold, goods⟩

/-- Any number of trades. -/
abbrev Trades (quotes : Quotes κ) : Account κ → Account κ → Prop :=
  Relation.ReflTransGen (Trade quotes)

/-- No dealer pays more than the worth, and none asks less. -/
structure Fair (quotes : Quotes κ) (worth : κ → ℕ) : Prop where
  bids : ∀ k, ∀ bid ∈ quotes.bids k, bid ≤ worth k
  asks : ∀ k, ∀ ask ∈ quotes.asks k, worth k ≤ ask

def Account.wealth (worth : κ → ℕ) (a : Account κ) : ℕ := a.gold + (a.goods.map worth).sum

variable {quotes : Quotes κ} {worth : κ → ℕ} {a b : Account κ}

theorem sum_map_replicate (worth : κ → ℕ) (n : ℕ) (k : κ) :
    ((Multiset.replicate n k).map worth).sum = n * worth k := by
  rw [Multiset.map_replicate, Multiset.sum_replicate, smul_eq_mul]

theorem Trade.wealth_le (hfair : Fair quotes worth) (h : Trade quotes a b) :
    b.wealth worth ≤ a.wealth worth := by
  cases h with
  | @buy gold n ask goods k hask =>
    have hworth : n * worth k ≤ n * ask := Nat.mul_le_mul_left n (hfair.asks k ask hask)
    simp only [Account.wealth, Multiset.map_add, Multiset.sum_add, sum_map_replicate]
    omega
  | @sell gold n bid goods k hbid =>
    have hworth : n * bid ≤ n * worth k := Nat.mul_le_mul_left n (hfair.bids k bid hbid)
    simp only [Account.wealth, Multiset.map_add, Multiset.sum_add, sum_map_replicate]
    omega
  | lose =>
    simp only [Account.wealth, Multiset.map_add, Multiset.sum_add]
    omega

/-- **Nobody gets richer by trading.** -/
theorem Trades.wealth_le (hfair : Fair quotes worth) (h : Trades quotes a b) :
    b.wealth worth ≤ a.wealth worth := by
  induction h with
  | refl => exact le_rfl
  | tail _ htrade ih => exact (htrade.wealth_le hfair).trans ih

/-- Several goods sold one after the other, each for what somebody gives for it. -/
theorem Trades.sell_all {ι : Type*} (sold : List ι) (unit : ι → κ) (count : ι → ℕ) {bid : ι → ℕ}
    (hbids : ∀ i ∈ sold, bid i ∈ quotes.bids (unit i)) (gold : ℕ) (goods : Multiset κ) :
    Trades quotes ⟨gold, goods + (sold.map fun i => Multiset.replicate (count i) (unit i)).sum⟩
      ⟨(sold.map fun i => count i * bid i).sum + gold, goods⟩ := by
  induction sold generalizing gold with
  | nil => simpa using Relation.ReflTransGen.refl
  | cons i sold ih =>
    have hfirst : Trade quotes
        ⟨gold, goods + (sold.map fun i => Multiset.replicate (count i) (unit i)).sum +
          Multiset.replicate (count i) (unit i)⟩
        ⟨count i * bid i + gold,
          goods + (sold.map fun i => Multiset.replicate (count i) (unit i)).sum⟩ :=
      .sell (hbids i List.mem_cons_self)
    have hrest := ih (fun j hj => hbids j (List.mem_cons_of_mem i hj)) (count i * bid i + gold)
    rw [List.map_cons, List.sum_cons, List.map_cons, List.sum_cons,
      add_comm (Multiset.replicate (count i) (unit i)), ← add_assoc,
      show count i * bid i + (sold.map fun i => count i * bid i).sum + gold =
        (sold.map fun i => count i * bid i).sum + (count i * bid i + gold) by omega]
    exact hrest.head hfirst

end Market
