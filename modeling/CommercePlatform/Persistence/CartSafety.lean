import CommercePlatform.Contract.Parsing
import CommercePlatform.Persistence.RefundSafety

/-!
The cart invariant.

`CartsConsistent` relates the cart rows of a committed database to their lines. All
three handlers lock the cart row before they read it, and only `add_item` writes
lines, under that lock; so what a transaction knows of a cart and its lines stays
true until it commits.
-/

namespace CommercePlatform.Persistence

open Contract Fraud Schema

/-- The lines of a cart, under their keys. -/
def Db.itemsOf (db : Db) (cartId : UUID) : List ((UUID × UUID) × CartItem) :=
  db.cartItems.entries.filter (·.1.1 = cartId)

theorem Db.linesOf_eq (db : Db) (cartId : UUID) :
    db.linesOf cartId = (db.itemsOf cartId).map Prod.snd := rfl

/-- A cart row agrees with its lines. -/
structure Cart.Consistent (cart : Cart) (lines : List CartItem) : Prop where
  nonempty : lines ≠ []
  subtotal : cart.subtotal = (lines.map (·.lineTotal)).sum
  itemCount : cart.itemCount = (lines.map (·.quantity)).sum
  lineTotal : ∀ line ∈ lines, line.lineTotal = line.unitPrice * line.quantity
  total : cart.total = cart.subtotal - cart.discount
  nonneg : 0 ≤ cart.total

/-- The carts of a database agree with their lines, and no line is without its cart. -/
structure CartsConsistent (db : Db) : Prop where
  consistent : ∀ id cart, db.carts.get? id = some cart → cart.Consistent (db.linesOf id)
  owned : ∀ id, db.carts.get? id = none → db.itemsOf id = []

theorem cartsConsistent_empty : CartsConsistent {} :=
  ⟨fun id cart found => by simp at found, fun _ _ => rfl⟩

/-- The line an event puts into a cart. -/
def cartLine : Payload → Option ((UUID × UUID) × CartItem)
  | .addedToCart p => some ((p.cartId, p.productId),
      ⟨p.quantity, p.unitPrice.value, p.unitPrice.value * p.quantity⟩)
  | _ => none

/-! ### The two tables -/

def cartTables (t : Table) : Bool := t = .carts ∨ t = .cartItems

theorem carts_of_restrict {db db' : Db}
    (same : db.restrict cartTables = db'.restrict cartTables) : db.carts = db'.carts := by
  simpa [Db.restrict, cartTables] using congrArg Db.carts same

theorem cartItems_of_restrict {db db' : Db}
    (same : db.restrict cartTables = db'.restrict cartTables) : db.cartItems = db'.cartItems := by
  simpa [Db.restrict, cartTables] using congrArg Db.cartItems same

theorem itemsOf_congr {db db' : Db} (same : db'.cartItems = db.cartItems) (id : UUID) :
    db'.itemsOf id = db.itemsOf id := by
  simp [Db.itemsOf, same]

/-- The lines of a cart after one line is written. -/
theorem itemsOf_set {db db' : Db} {cartId productId : UUID} {line : CartItem}
    (cartItems : db'.cartItems = db.cartItems.set (cartId, productId) line) (id : UUID) :
    db'.itemsOf id =
      if cartId = id then Dict.setEntries (cartId, productId) line (db.itemsOf id)
      else db.itemsOf id := by
  simpa [Db.itemsOf, cartItems, Dict.set] using
    Dict.filter_setEntries (fun key : UUID × UUID => decide (key.1 = id)) (cartId, productId) line
      db.cartItems.entries

/-- The lines of a list of entries after one of them is written. -/
theorem mem_setEntries {κ ν : Type} [DecidableEq κ] {k : κ} {v w : ν} {l : List (κ × ν)}
    (mem : w ∈ (Dict.setEntries k v l).map Prod.snd) : w = v ∨ w ∈ l.map Prod.snd := by
  induction l with
  | nil => simpa [Dict.setEntries] using mem
  | cons e rest ih =>
    obtain ⟨k', v'⟩ := e
    by_cases same : k' = k
    · simp only [Dict.setEntries, if_pos same, List.map_cons, List.mem_cons] at mem ⊢
      tauto
    · simp only [Dict.setEntries, if_neg same, List.map_cons, List.mem_cons] at mem ⊢
      tauto

theorem CartsConsistent.congr {db db' : Db} (h : CartsConsistent db)
    (carts : db'.carts = db.carts) (cartItems : db'.cartItems = db.cartItems) :
    CartsConsistent db' := by
  have same := itemsOf_congr cartItems
  refine ⟨fun id cart found => ?_, fun id absent => ?_⟩
  · rw [Db.linesOf_eq, same]
    exact h.consistent id cart (carts ▸ found)
  · rw [same]
    exact h.owned id (carts ▸ absent)

/-! ### The two updates -/

section

variable {db db' : Db} (h : CartsConsistent db) {id : UUID}

include h

/-- Checkout and order write the row of a cart, and leave its lines. -/
theorem CartsConsistent.updateCart {old cart : Cart} (found : db.carts.get? id = some old)
    (subtotal : cart.subtotal = old.subtotal) (itemCount : cart.itemCount = old.itemCount)
    (total : cart.total = cart.subtotal - cart.discount) (nonneg : 0 ≤ cart.total)
    (carts : db'.carts = db.carts.set id cart) (cartItems : db'.cartItems = db.cartItems) :
    CartsConsistent db' := by
  have same := itemsOf_congr cartItems
  have consistent := h.consistent id old found
  refine ⟨fun key row present => ?_, fun key absent => ?_⟩
  · rw [Db.linesOf_eq, same]
    rw [carts, Dict.get?_set] at present
    split at present
    · rename_i eq
      cases present
      rw [eq]
      exact ⟨consistent.nonempty, subtotal.trans consistent.subtotal,
        itemCount.trans consistent.itemCount, consistent.lineTotal, total, nonneg⟩
    · exact h.consistent key row present
  · rw [carts, Dict.get?_set] at absent
    split at absent
    · cases absent
    · rw [same]
      exact h.owned key absent

/-- Adding an item writes its line and recomputes the row. -/
theorem CartsConsistent.addLine {productId : UUID} {line : CartItem} {cart : Cart}
    (lineTotal : line.lineTotal = line.unitPrice * line.quantity)
    (carts : db'.carts = db.carts.set id cart)
    (cartItems : db'.cartItems = db.cartItems.set (id, productId) line)
    (subtotal : cart.subtotal = ((db'.linesOf id).map (·.lineTotal)).sum)
    (itemCount : cart.itemCount = ((db'.linesOf id).map (·.quantity)).sum)
    (total : cart.total = cart.subtotal - cart.discount) (nonneg : 0 ≤ cart.total) :
    CartsConsistent db' := by
  have items := itemsOf_set cartItems
  have old : ∀ w ∈ (db.itemsOf id).map Prod.snd, w.lineTotal = w.unitPrice * w.quantity := by
    intro w mem
    cases found : db.carts.get? id with
    | none => simp [h.owned id found] at mem
    | some old => exact (h.consistent id old found).lineTotal w mem
  refine ⟨fun key row present => ?_, fun key absent => ?_⟩
  · rw [carts, Dict.get?_set] at present
    split at present
    · rename_i eq
      cases present
      subst eq
      refine ⟨?_, subtotal, itemCount, fun w mem => ?_, total, nonneg⟩
      · rw [Db.linesOf_eq, items, if_pos rfl]
        intro empty
        cases l : db.itemsOf key with
        | nil => simp [l, Dict.setEntries] at empty
        | cons e rest =>
          obtain ⟨k', v'⟩ := e
          rw [l] at empty
          simp only [Dict.setEntries] at empty
          split at empty <;> simp at empty
      · rw [Db.linesOf_eq, items, if_pos rfl] at mem
        rcases mem_setEntries mem with rfl | before
        · exact lineTotal
        · exact old w before
    · rename_i ne
      rw [Db.linesOf_eq, items, if_neg (Ne.symm ne)]
      exact h.consistent key row present
  · rw [carts, Dict.get?_set] at absent
    split at absent
    · cases absent
    · rename_i ne
      rw [items, if_neg (Ne.symm ne)]
      exact h.owned key absent

end

/-! ### What the locks guard -/

/-- A locked cart keeps its row and its lines. -/
def cartAgree : Lock → Db → Db → Prop
  | .row .carts id, db, db' =>
    db'.carts.get? id = db.carts.get? id ∧ db'.itemsOf id = db.itemsOf id
  | _, _, _ => True

theorem cartAgree_of_eq {db db' : Db} (carts : db'.carts = db.carts)
    (cartItems : db'.cartItems = db.cartItems) (l : Lock) : cartAgree l db db' := by
  unfold cartAgree
  split
  · exact ⟨by rw [carts], itemsOf_congr cartItems _⟩
  · trivial

/-- A cart whose lock is free may change with its lines. -/
theorem cartAgree_of_cart {db db' : Db} {id : UUID}
    (carts : ∀ key, key ≠ id → db'.carts.get? key = db.carts.get? key)
    (items : ∀ key, key ≠ id → db'.itemsOf key = db.itemsOf key) {l : Lock}
    (free : l ≠ .row .carts id) : cartAgree l db db' := by
  unfold cartAgree
  split
  · rename_i key
    have ne : key ≠ id := fun eq => free (by rw [eq])
    exact ⟨carts key ne, items key ne⟩
  · trivial

theorem cartAgree_guard : IsGuard (D := database .exact) cartAgree where
  refl l db := cartAgree_of_eq rfl rfl l
  trans l db db' db'' first next := by
    unfold cartAgree at *
    split
    · exact ⟨next.1.trans first.1, next.2.trans first.2⟩
    · trivial

/-! ### The bodies -/

/-- The line writes of an event. -/
def lineWrites (payload : Payload) : List Write :=
  (cartLine payload).toList.map fun e => .cartItems e.1 e.2

def itemTable (t : Table) : Bool := t = .cartItems

/-- The invariant, on committed databases: carts are consistent, and every committed
transaction wrote the line of its event and no other. -/
structure CartsKept (c : (database .exact).Committed PersistCall) : Prop where
  consistent : CartsConsistent c.db
  lines : ∀ entry ∈ c.history,
    entry.2.filter (touches itemTable) = lineWrites entry.1.event.payload

abbrev KnowsCarts (rel : List Write) (need : List Lock) (P : Db → Prop) :
    Assn (database .exact) PersistCall :=
  Holds (D := database .exact) CartsKept (touches cartTables) rel need P

abbrev CartsSettled (call : PersistCall) : Assn (database .exact) PersistCall :=
  Settled (D := database .exact) CartsKept cartAgree (touches cartTables) call

abbrev cartsWp {α : Type} (p : Sql α) (Q : α → Assn (database .exact) PersistCall) :
    Assn (database .exact) PersistCall :=
  wp (D := database .exact) CartsKept cartAgree p Q

theorem seen_carts {db : Db} {ws rel : List Write} (only : ws.filter (touches cartTables) = rel) :
    ((database .exact).view db ws).carts = ((database .exact).view db rel).carts :=
  carts_of_restrict (only ▸ restrict_view_filter _ _ _)

theorem seen_cartItems {db : Db} {ws rel : List Write}
    (only : ws.filter (touches cartTables) = rel) :
    ((database .exact).view db ws).cartItems = ((database .exact).view db rel).cartItems :=
  cartItems_of_restrict (only ▸ restrict_view_filter _ _ _)

theorem filter_itemTable (ws : List Write) :
    (ws.filter (touches cartTables)).filter (touches itemTable) = ws.filter (touches itemTable) := by
  rw [List.filter_filter]
  congr 1
  funext w
  cases w <;> rfl

section

variable {call : PersistCall} {c : (database .exact).Committed PersistCall} {ws : List Write}
  {ls : List Lock}

/-- Writes that keep the carts consistent may be committed. -/
theorem cartsSettled_of (rel : List Write) {need : List Lock} {P : Db → Prop}
    (guards : Guards (D := database .exact) cartAgree need P) (h : KnowsCarts rel need P c ws ls)
    (lines : rel.filter (touches itemTable) = lineWrites call.event.payload)
    (keep : ∀ db db', CartsConsistent db → P db →
      db'.carts = ((database .exact).view db rel).carts →
      db'.cartItems = ((database .exact).view db rel).cartItems →
      CartsConsistent db' ∧ ∀ l, l ∉ need → cartAgree l db db') :
    CartsSettled call c ws ls := by
  refine ⟨rel, need, P, guards, h, fun c' ws' inv known only _ => ?_⟩
  obtain ⟨consistent, agree⟩ := keep c'.db ((database .exact).view c'.db ws') inv.consistent known
    (seen_carts only) (seen_cartItems only)
  refine ⟨⟨consistent, ?_⟩, agree⟩
  intro entry mem
  rcases List.mem_cons.mp mem with rfl | before
  · rw [← filter_itemTable, only]
    exact lines
  · exact inv.lines entry before

/-- A transaction that writes neither table may commit. -/
theorem cartsSettled_nil (quiet : cartLine call.event.payload = none)
    (h : KnowsCarts [] [] (fun _ => True) c ws ls) : CartsSettled call c ws ls := by
  refine cartsSettled_of [] (fun _ _ _ _ => trivial) h (by simp [lineWrites, quiet])
    fun db db' consistent _ carts cartItems => ⟨?_, fun l _ => ?_⟩
  · exact consistent.congr carts cartItems
  · exact cartAgree_of_eq carts cartItems l

theorem no_cart_guarded : Guards (D := database .exact) cartAgree [] fun _ => True :=
  fun _ _ _ _ => trivial

/-! #### add_item -/

/-- The row of a cart after the upsert of `row`. -/
def upserted (row : Cart) : Option Cart → Cart
  | some old => { old with latestEventId := row.latestEventId }
  | none => row

theorem upsertCart_added {cartId : UUID} {row : Cart} {seen : Db} {count : Nat}
    (counted : count = (Stmt.upsertCart cartId row).answer seen) (added : count ≠ 0) :
    (Stmt.upsertCart cartId row).writes .exact seen =
      [.carts cartId (upserted row (seen.carts.get? cartId))] := by
  subst counted
  cases found : seen.carts.get? cartId with
  | none => simp [Stmt.writes, found, upserted]
  | some old =>
    by_cases same : old.customerId = row.customerId ∧ old.sessionId = row.sessionId ∧
        old.currency = row.currency
    · simp [Stmt.writes, found, same, upserted]
    · simp [Stmt.answer, found, same, Stmt.updated] at added

/-- What is known of a locked cart. -/
def cartKnown (cartId : UUID) (cart : Option Cart) (items : List ((UUID × UUID) × CartItem))
    (db : Db) : Prop :=
  db.carts.get? cartId = cart ∧ db.itemsOf cartId = items

theorem cartKnown_guarded {cartId : UUID} {cart : Option Cart}
    {items : List ((UUID × UUID) × CartItem)} :
    Guards (D := database .exact) cartAgree [.row .carts cartId] (cartKnown cartId cart items) := by
  intro db db' same known
  have agree : cartAgree (.row .carts cartId) db db' := same _ (by simp)
  exact ⟨agree.1.trans known.1, agree.2.trans known.2⟩

/-- The row of a cart whose lines are summed. -/
def refreshed (cart : Cart) (lines : List CartItem) (eventId : UUID) : Cart :=
  { cart with
    subtotal := (lines.map (·.lineTotal)).sum
    total := (lines.map (·.lineTotal)).sum - cart.discount
    itemCount := (lines.map (·.quantity)).sum
    latestEventId := eventId }

theorem refreshCart_passed {cartId eventId : UUID} {cart : Cart} {seen : Db}
    (found : seen.carts.get? cartId = some cart) (some_ : seen.linesOf cartId ≠ [])
    (passed : ∀ x ∈ (Stmt.refreshCart cartId eventId).constraints .exact seen, x.1 = true) :
    (Stmt.refreshCart cartId eventId).writes .exact seen =
        [.carts cartId (refreshed cart (seen.linesOf cartId) eventId)] ∧
      0 ≤ (refreshed cart (seen.linesOf cartId) eventId).total := by
  constructor
  · simp [Stmt.writes, found, some_, refreshed]
  · have checked := passed (decide (0 ≤ (refreshed cart (seen.linesOf cartId) eventId).total),
      .checkViolation) (by
        simp [Stmt.constraints, found, some_, Stmt.nonnegative, Stmt.money, refreshed])
    exact of_decide_eq_true checked

theorem setEntries_ne_nil {κ ν : Type} [DecidableEq κ] (k : κ) (v : ν) (l : List (κ × ν)) :
    Dict.setEntries k v l ≠ [] := by
  cases l with
  | nil => simp [Dict.setEntries]
  | cons e rest =>
    obtain ⟨k', v'⟩ := e
    simp only [Dict.setEntries]
    split <;> simp

/-- From the upsert on, the row and the lines of the cart are locked. -/
theorem upsertCart_known {cartId : UUID} {row : Cart} {seen : Db} {count : Nat}
    (h : KnowsCarts [] [] (fun _ => True) c ws ls) (view : seen = (database .exact).view c.db ws)
    (counted : count = (Stmt.upsertCart cartId row).answer seen) (added : count ≠ 0) :
    KnowsCarts [.carts cartId (upserted row (c.db.carts.get? cartId))] [.row .carts cartId]
      (cartKnown cartId (c.db.carts.get? cartId) (c.db.itemsOf cartId)) c
      (ws ++ (Stmt.upsertCart cartId row).writes .exact seen)
      (ls ++ (Stmt.upsertCart cartId row).locks seen) := by
  have carts : seen.carts = c.db.carts := view ▸ seen_carts h.rel
  refine ⟨h.inv, ?_, fun l mem => List.mem_append_right _ ?_, rfl, rfl⟩
  · rw [List.filter_append, h.rel, upsertCart_added counted added, carts]
    rfl
  · simpa [Stmt.locks] using mem

/-- The last two statements of `add_item`. -/
theorem addLine_settled {cartId productId eventId : UUID} {row : Cart} {line : CartItem}
    {old : Option Cart} {items : List ((UUID × UUID) × CartItem)} {counts : RowCounts}
    (ours : cartLine call.event.payload = some ((cartId, productId), line))
    (lineTotal : line.lineTotal = line.unitPrice * line.quantity)
    (h : KnowsCarts [.carts cartId row] [.row .carts cartId] (cartKnown cartId old items) c ws ls) :
    cartsWp (do
        let _ ← sql (.upsertCartItem cartId productId line)
        let _ ← sql (.refreshCart cartId eventId)
        return counts)
      (fun _ => CartsSettled call) c ws ls := by
  refine wp_sql cartKnown_guarded h fun c h seen _ _ _ _ => ?_
  have written : KnowsCarts [.carts cartId row, .cartItems (cartId, productId) line]
      [.row .carts cartId] (cartKnown cartId old items) c
      (ws ++ (Stmt.upsertCartItem cartId productId line).writes .exact seen)
      (ls ++ (Stmt.upsertCartItem cartId productId line).locks seen) := by
    refine ⟨h.inv, ?_, fun l mem => List.mem_append_left _ (h.need l mem), h.known⟩
    rw [List.filter_append, h.rel]
    rfl
  refine wp_sql cartKnown_guarded written fun c h seen view passed _ _ => ?_
  have carts : seen.carts.get? cartId = some row := by
    rw [view, seen_carts h.rel]
    exact Dict.get?_set_self _ _ _
  have lines (db db' : Db) (known : cartKnown cartId old items db)
      (cartItems : db'.cartItems = db.cartItems.set (cartId, productId) line) :
      db'.linesOf cartId = (Dict.setEntries (cartId, productId) line items).map Prod.snd := by
    rw [Db.linesOf_eq, itemsOf_set cartItems, if_pos rfl, known.2]
  have seenLines := lines c.db seen h.known (by rw [view, seen_cartItems h.rel]; rfl)
  obtain ⟨wrote, nonneg⟩ := refreshCart_passed carts
    (by simpa [seenLines] using setEntries_ne_nil _ _ _) passed
  rw [seenLines] at wrote nonneg
  set final := refreshed row ((Dict.setEntries (cartId, productId) line items).map Prod.snd) eventId
  refine cartsSettled_of [.carts cartId row, .cartItems (cartId, productId) line,
    .carts cartId final] cartKnown_guarded ⟨h.inv, ?_, ?_, h.known⟩ ?_ ?_
  · rw [List.filter_append, h.rel, wrote]
    rfl
  · exact fun l mem => List.mem_append_left _ (h.need l mem)
  · simp [lineWrites, ours, touches, itemTable, Write.table]
  · intro db db' consistent known carts cartItems
    have cartItems : db'.cartItems = db.cartItems.set (cartId, productId) line := cartItems
    have carts : db'.carts = (db.carts.set cartId row).set cartId final := carts
    have commitLines := lines db db' known cartItems
    have once : db'.carts = db.carts.set cartId final := by
      rw [carts, Dict.set_set]
    refine ⟨consistent.addLine lineTotal once cartItems ?_ ?_ rfl nonneg, fun l free => ?_⟩
    · rw [commitLines]; rfl
    · rw [commitLines]; rfl
    · refine cartAgree_of_cart (fun key ne => ?_) (fun key ne => ?_) (by simpa using free)
      · rw [once, Dict.get?_set_ne _ _ ne]
      · rw [itemsOf_set cartItems, if_neg (Ne.symm ne)]

theorem addItem_settled {payload : AddedToCartPayload} {eventId : UUID}
    (ours : call.event.payload = .addedToCart payload)
    (h : KnowsCarts [] [] (fun _ => True) c ws ls) :
    cartsWp (addItem .exact payload eventId) (fun _ => CartsSettled call) c ws ls := by
  unfold addItem
  refine wp_then (wp_frame ((requireCustomer_writes _).irrelevant (by simp)) no_cart_guarded h)
    fun _ c ws ls h => ?_
  refine wp_then (wp_frame ((requireSession_writes _).irrelevant (by simp)) no_cart_guarded h)
    fun _ c ws ls h => ?_
  rw [show Arithmetic.exact.mul payload.unitPrice.value payload.quantity =
    .ok (payload.unitPrice.value * payload.quantity) from rfl, compute_ok_bind]
  refine wp_sql no_cart_guarded h fun c h seen view _ count counted => ?_
  split
  · trivial
  rename_i added
  exact addLine_settled (by rw [ours]; rfl) rfl (upsertCart_known h view counted added)

/-! #### checkout and order -/

/-- A locked cart row. -/
theorem lockCart_known {cartId : UUID} {seen : Db} {cart : Cart}
    (h : KnowsCarts [] [] (fun _ => True) c ws ls) (view : seen = (database .exact).view c.db ws)
    (fetched : some cart = (Stmt.lockCart cartId).answer seen) :
    KnowsCarts [] [.row .carts cartId] (cartKnown cartId (some cart) (c.db.itemsOf cartId)) c
      (ws ++ (Stmt.lockCart cartId).writes .exact seen)
      (ls ++ (Stmt.lockCart cartId).locks seen) := by
  have present : seen.carts.get? cartId = some cart := fetched.symm
  have carts : seen.carts = c.db.carts := view ▸ seen_carts h.rel
  have h := h.skip (W := (Stmt.lockCart cartId).writes .exact seen) (by simp [Stmt.writes])
    ((Stmt.lockCart cartId).locks seen)
  refine ⟨h.inv, h.rel, fun l mem => List.mem_append_right _ ?_, carts ▸ present, rfl⟩
  simpa [Stmt.locks, Stmt.lockRow, present] using mem

/-- One write of a locked cart row that leaves its subtotal and item count. -/
theorem updateCart_settled (old cart : Cart) {cartId : UUID}
    {items : List ((UUID × UUID) × CartItem)} (quiet : cartLine call.event.payload = none)
    (subtotal : cart.subtotal = old.subtotal) (itemCount : cart.itemCount = old.itemCount)
    (total : ∀ db, CartsConsistent db → db.carts.get? cartId = some old →
      cart.total = cart.subtotal - cart.discount ∧ 0 ≤ cart.total)
    (h : KnowsCarts [.carts cartId cart] [.row .carts cartId]
      (cartKnown cartId (some old) items) c ws ls) :
    CartsSettled call c ws ls := by
  refine cartsSettled_of [.carts cartId cart] cartKnown_guarded h
    (by simp [lineWrites, quiet, touches, itemTable, Write.table]) ?_
  intro db db' consistent known carts cartItems
  have cartItems : db'.cartItems = db.cartItems := cartItems
  have carts : db'.carts = db.carts.set cartId cart := carts
  obtain ⟨total, nonneg⟩ := total db consistent known.1
  refine ⟨consistent.updateCart known.1 subtotal itemCount total nonneg carts cartItems,
    fun l free => ?_⟩
  refine cartAgree_of_cart (fun key ne => ?_) (fun key _ => itemsOf_congr cartItems key)
    (by simpa using free)
  rw [carts, Dict.get?_set_ne _ _ ne]

theorem checkout_settled {payload : CheckoutStartedPayload} {eventId : UUID}
    (ours : call.event.payload = .checkoutStarted payload)
    (totals : payload.totalAmount.value = payload.subtotal.value - payload.discountAmount.value)
    (h : KnowsCarts [] [] (fun _ => True) c ws ls) :
    cartsWp (checkout payload eventId) (fun _ => CartsSettled call) c ws ls := by
  refine wp_sql no_cart_guarded h fun c h seen view _ fetched answered => ?_
  split
  · trivial
  rename_i row
  have known := lockCart_known h view answered
  refine wp_ite (fun _ => trivial) fun agree => ?_
  push Not at agree
  obtain ⟨-, -, subtotal, -, -⟩ := agree
  refine wp_sql (f := pure) cartKnown_guarded known fun c h seen view passed _ _ => ?_
  have present : seen.carts.get? payload.cartId = some row := by
    rw [view, seen_carts h.rel]
    exact h.known.1
  have nonneg : 0 ≤ payload.totalAmount.value :=
    Stmt.nonnegative_passed .exact (List.forall_mem_append.mp passed).2
  let cart : Cart := { row with
    status := .checkoutStarted
    discount := payload.discountAmount.value
    total := payload.totalAmount.value
    latestEventId := eventId }
  refine updateCart_settled row cart (by rw [ours]; rfl) rfl rfl (fun _ _ _ => ⟨?_, nonneg⟩)
    ⟨h.inv, ?_, fun l mem => List.mem_append_left _ (h.need l mem), h.known⟩
  · exact totals.trans (by rw [subtotal])
  · rw [List.filter_append, h.rel]
    simp only [Stmt.writes, present, Option.map_some, Option.toList_some]
    rfl

theorem insertOrder_settled {payload : OrderCreatedPayload} {eventId : UUID}
    (ours : call.event.payload = .orderCreated payload)
    (h : KnowsCarts [] [] (fun _ => True) c ws ls) :
    cartsWp (insertOrder payload eventId) (fun _ => CartsSettled call) c ws ls := by
  refine wp_sql no_cart_guarded h fun c h seen view _ fetched answered => ?_
  split
  · trivial
  rename_i row
  have known := lockCart_known h view answered
  refine wp_ite (fun _ => trivial) fun _ => ?_
  refine wp_sql cartKnown_guarded known fun c h seen view _ _ _ => ?_
  split
  · trivial
  refine wp_sql cartKnown_guarded (holds_statement (by simp [Stmt.target, cartTables]) h seen)
    fun c h seen view _ _ _ => ?_
  have present : seen.carts.get? payload.cartId = some row := by
    rw [view, seen_carts h.rel]
    exact h.known.1
  let cart : Cart := { row with status := .ordered, latestEventId := eventId }
  have total (db : Db) (consistent : CartsConsistent db)
      (found : db.carts.get? payload.cartId = some row) :
      cart.total = cart.subtotal - cart.discount ∧ 0 ≤ cart.total :=
    ⟨(consistent.consistent _ _ found).total, (consistent.consistent _ _ found).nonneg⟩
  refine updateCart_settled row cart (by rw [ours]; rfl) rfl rfl total
    ⟨h.inv, ?_, fun l mem => List.mem_append_left _ (h.need l mem), h.known⟩
  rw [List.filter_append, h.rel]
  simp only [Stmt.writes, present, Option.map_some, Option.toList_some]
  rfl

/-! #### The whole transaction -/

/-- What `validate_totals` has checked, in exact arithmetic. -/
theorem validateTotals_checkout {payload : CheckoutStartedPayload}
    (valid : validateTotals Arithmetic.exact.toDecimalContext (.checkoutStarted payload) = .ok ()) :
    payload.totalAmount.value = payload.subtotal.value - payload.discountAmount.value := by
  simp only [validateTotals, validateTotals.check, Arithmetic.exact_add] at valid
  split at valid
  · cases valid
  · simp only [bind, Except.bind, ne_eq, ite_not] at valid
    split at valid
    · rename_i same
      rw [same, sub_eq_add_neg]
    · cases valid

variable (call) in
theorem applyHandler_cartsSettled (rt : Runtime)
    (valid : validateTotals Arithmetic.exact.toDecimalContext call.event.payload = .ok ())
    (h : KnowsCarts [] [] (fun _ => True) c ws ls) :
    cartsWp (applyHandler rt .exact call.event) (fun _ => CartsSettled call) c ws ls := by
  have frame {p : Sql RowCounts} {ts : List Table} (writes : Writes ts p)
      (elsewhere : ∀ t ∈ ts, cartTables t = false) (quiet : cartLine call.event.payload = none) :
      cartsWp p (fun _ => CartsSettled call) c ws ls :=
    wp_settled (writes.irrelevant elsewhere) (cartsSettled_nil quiet h)
  have writes := applyHandler_writes rt .exact call.event
  unfold applyHandler at writes ⊢
  unfold EventEnvelope.eventType at writes
  cases payload : call.event.payload with
  | addedToCart p => exact addItem_settled payload h
  | checkoutStarted p =>
    rw [payload] at valid
    exact wp_then (checkout_settled payload (validateTotals_checkout valid) h)
      fun _ _ _ _ settled => settled
  | orderCreated p => exact insertOrder_settled payload h
  | _ =>
    rw [payload] at writes
    exact frame writes (by simp [handlerTables, Payload.eventType, cartTables]) (by rw [payload]; rfl)

end

/-- Every transaction of a valid event keeps the carts. -/
theorem transaction_carts {uow : UnitOfWork} (exact_ : uow.arith = .exact) {call : PersistCall}
    (valid : validateTotals uow.arith.toDecimalContext call.event.payload = .ok ()) :
    Keeps (D := database .exact) CartsKept cartAgree uow.transaction call := by
  intro c inv
  have weaken : ∀ (_ : PersistenceResult) c ws ls, CartsSettled call c ws ls →
      CommitSafe (D := database .exact) CartsKept cartAgree call c ws ls :=
    fun _ _ _ _ settled => settled.commitSafe
  refine wp_mono ?_ weaken
  unfold UnitOfWork.transaction
  rw [exact_] at valid ⊢
  have start : KnowsCarts [] [] (fun _ => True) c [] [] := ⟨inv, rfl, by simp, trivial⟩
  refine wp_then (wp_frame ((insertIdentity_writes _ _ _ _ _).irrelevant (by decide))
    no_cart_guarded start) fun _ c ws ls h => ?_
  refine wp_then (applyHandler_cartsSettled call _ valid h) fun counts c ws ls settled => ?_
  refine wp_ite (fun _ => ?_) fun _ => settled
  exact wp_settled ((fraudStage_writes uow call _).irrelevant (by decide)) settled

/-- What a step may do to the lines of the carts: nothing, or commit an event and write
the line that the event puts into a cart, if any. -/
def LinesStep (c c' : (database .exact).Committed PersistCall) : Prop :=
  c' = c ∨ ∃ call ws, c'.history = (call, ws) :: c.history ∧
    c'.db.cartItems =
      match cartLine call.event.payload with
      | some (key, line) => c.db.cartItems.set key line
      | none => c.db.cartItems

theorem CartsKept.linesStep {c : (database .exact).Committed PersistCall} {call : PersistCall}
    {ws : List Write} (kept : CartsKept (c.commit call ws)) : LinesStep c (c.commit call ws) := by
  refine Or.inr ⟨call, ws, rfl, ?_⟩
  have written : ws.filter (touches itemTable) = lineWrites call.event.payload :=
    kept.lines (call, ws) List.mem_cons_self
  have seen : ((database .exact).view c.db ws).cartItems =
      ((database .exact).view c.db (ws.filter (touches itemTable))).cartItems := by
    simpa [Db.restrict, itemTable] using
      congrArg Db.cartItems (@restrict_view_filter .exact itemTable c.db ws)
  rw [Committed.commit, seen, written, lineWrites]
  cases cartLine call.event.payload <;> rfl

/-- In every committed state of every interleaving of transactions each cart agrees with
its lines, and no step writes another line than the one of the product that is added. -/
theorem carts_consistent {ι : Type} [DecidableEq ι] {uow : UnitOfWork}
    (exact_ : uow.arith = .exact) {db : Db} (start : CartsConsistent db)
    {acts : List (ι × Act PersistCall)}
    (valid : ∀ i call, (i, .begin call) ∈ acts →
      validateTotals uow.arith.toDecimalContext call.event.payload = .ok ())
    {st : (database .exact).Store ι PersistCall PyException _}
    (ran : (machine uow.transaction).run { committed := ⟨db, []⟩ } acts = some st) :
    CartsConsistent st.committed.db ∧
      ∀ a st', (machine uow.transaction).step st a = some st' →
        LinesStep st.committed st'.committed := by
  have init : CartsKept ⟨db, []⟩ := ⟨start, by simp⟩
  refine ⟨(run_inv cartAgree_guard (fun i call mem => transaction_carts exact_ (valid i call mem))
    init ran).consistent, fun a st' stepped => ?_⟩
  rcases Store.step_committed stepped with same | ⟨commit, tx, -, after⟩
  · exact Or.inl same
  have ran' := (machine uow.transaction).run_concat.mpr ⟨st, ran, stepped⟩
  have kept : CartsKept st'.committed := by
    refine run_inv cartAgree_guard (fun i call mem => transaction_carts exact_ (valid i call ?_))
      init ran'
    refine (List.mem_append.mp mem).resolve_right fun last => ?_
    rw [← List.mem_singleton.mp last] at commit
    cases commit
  rw [after] at kept ⊢
  exact kept.linesStep

/-! ### Three additions to one cart -/

section

/-- A customer with a session. -/
def shopDb : Db :=
  { customers := Dict.empty.set (.ofNat 1) ⟨"h", .normal, "TR", 0, .ofNat 6, .ofNat 6⟩
    sessions := Dict.empty.set (.ofNat 3)
      ⟨.ofNat 1, "d", .desktop, plainAddress, "TR", .web, 0, .ofNat 6⟩ }

def plainAdd (n product quantity price : Nat) : PersistCall :=
  plainCall n (.addedToCart
    ⟨.ofNat 3, .ofNat 1, .ofNat 4, .ofNat product, quantity, { coefficient := price }, .eur⟩)

/-- Two sessions add products 1 and 2 at once; the first then adds product 1 again. -/
def additions : List (Nat × Act PersistCall) :=
  [(0, .begin (plainAdd 10 1 2 5)), (1, .begin (plainAdd 11 2 1 7))] ++
    List.replicate 6 (0, .statement) ++ List.replicate 5 (1, .statement) ++
    List.replicate 2 (0, .statement) ++ [(0, .commit)] ++ List.replicate 3 (1, .statement) ++
    [(1, .commit), (0, .begin (plainAdd 12 1 3 5))] ++ List.replicate 8 (0, .statement) ++
    [(0, .commit)]

theorem shopDb_consistent : CartsConsistent shopDb :=
  cartsConsistent_empty.congr rfl rfl

theorem carts_consistent_additions :
    ∃ st : (database .exact).Store Nat PersistCall PyException PersistenceResult,
      (machine plainUow.transaction).run { committed := ⟨shopDb, []⟩ } additions = some st ∧
      CartsConsistent st.committed.db ∧
      st.committed.db.linesOf (.ofNat 4) = [⟨3, 5, 15⟩, ⟨1, 7, 7⟩] := by
  let M : Machine ((database .exact).Store Nat PersistCall PyException PersistenceResult) _ :=
    machine plainUow.transaction
  have lines : (M.run { committed := ⟨shopDb, []⟩ } additions).map
      (fun st => st.committed.db.linesOf (.ofNat 4)) = some [⟨3, 5, 15⟩, ⟨1, 7, 7⟩] := by
    decide +kernel
  obtain ⟨st, ran, found⟩ := Option.map_eq_some_iff.mp lines
  have valid : ∀ i call, (i, .begin call) ∈ additions →
      validateTotals plainUow.arith.toDecimalContext call.event.payload = .ok () := by
    intro i call mem
    simp only [additions, List.mem_append, List.mem_cons, List.mem_replicate] at mem
    aesop
  exact ⟨st, ran, (carts_consistent rfl shopDb_consistent valid ran).1, found⟩

end

end CommercePlatform.Persistence
