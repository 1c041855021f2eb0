import CommercePlatform.Generator.Draws
import CommercePlatform.Generator.Lifecycle

/-!
A journey up to the decision to add to the cart: its customer is one of the pool or new, and
its events, from the registration to the last view, continue the life of that customer.

One lemma for each stage says which events it emits and which identifiers it draws.
-/

namespace CommercePlatform.Generator

open Contract Stateful

section

variable {rt : Runtime} {source : Source} {config : GeneratorConfig} {w w' : World}

/-! ### The customer -/

/-- The pool has a state of that customer. -/
def Known (w : World) (customer : CustomerState) : Prop :=
  ∃ state ∈ w.customers.values, state.customerId = customer.customerId

/-- The customer is one of the pool, perhaps under another persona. -/
def Recalled (w : World) (customer : CustomerState) : Prop :=
  ∃ state ∈ w.customers.values, customer = { state with persona := customer.persona }

theorem Recalled.known {w : World} {customer : CustomerState} (h : Recalled w customer) :
    Known w customer := by
  obtain ⟨state, member, same⟩ := h
  refine ⟨state, member, ?_⟩
  rw [same]

theorem choice_mem {α : Type} {population : List α} {a : α}
    (ran : choice source population w = .ok (a, w')) : a ∈ population := by
  obtain ⟨i, u, -, rest⟩ := bind_ok.mp ran
  cases found : population[source.pick i % population.length]? with
  | none =>
    rw [found] at rest
    exact (raiseError_ok rest).elim
  | some b =>
    rw [found] at rest
    obtain ⟨rfl, -⟩ := pure_ok.mp rest
    exact List.mem_of_getElem? found

theorem candidate_spec {p : CustomerState → Bool} {found : Option CustomerState}
    (ran : candidate source p w = .ok (found, w')) :
    Silent w w' ∧ ∀ customer, found = some customer → customer ∈ w.customers.values := by
  obtain ⟨world, u, read, rest⟩ := bind_ok.mp ran
  obtain ⟨rfl, rfl⟩ := get_ok.mp read
  split at rest
  · obtain ⟨rfl, rfl⟩ := pure_ok.mp rest
    exact ⟨Silent.refl _, fun _ impossible => by cases impossible⟩
  · obtain ⟨customer, v, chosen, returned⟩ := bind_ok.mp rest
    obtain ⟨rfl, rfl⟩ := pure_ok.mp returned
    refine ⟨isSilent_choice _ _ _ _ chosen, ?_⟩
    intro other same
    cases same
    exact (List.mem_filter.mp (choice_mem chosen)).1

theorem takeoverCandidate_spec {found : Option CustomerState}
    (ran : takeoverCandidate source w = .ok (found, w')) :
    Silent w w' ∧ ∀ customer, found = some customer → Recalled w customer := by
  obtain ⟨original, u, chosen, returned⟩ := bind_ok.mp ran
  obtain ⟨rfl, rfl⟩ := pure_ok.mp returned
  obtain ⟨silent, member⟩ := candidate_spec chosen
  refine ⟨silent, ?_⟩
  intro customer same
  obtain ⟨state, rfl, rfl⟩ := Option.map_eq_some_iff.mp same
  exact ⟨state, member state rfl, rfl⟩

/-- The customer of a journey is in the pool, or has been drawn for it. -/
inductive Chooses (source : Source) (w w' : World) (selection : Selection) : Prop where
  | returns (flag : selection.returning = true) (known : Recalled w selection.customer)
      (silent : Silent w w')
  | creates (flag : selection.returning = false)
      (customerId : selection.customer.customerId = source.uuids w.drawnUuids)
      (customers : w'.customers = w.customers) (drawn : w'.drawnUuids = w.drawnUuids + 2)

theorem Chooses.after {w₀ : World} {selection : Selection} (silent : Silent w₀ w)
    (chooses : Chooses source w w' selection) : Chooses source w₀ w' selection := by
  cases chooses with
  | returns flag known rest =>
    refine .returns flag ?_ (silent.trans rest)
    rw [Recalled, ← silent.1]
    exact known
  | creates flag customerId customers drawn =>
    refine .creates flag ?_ (customers.trans silent.1) ?_
    · rw [customerId, silent.2]
    · rw [drawn, silent.2]

theorem newUuid_ok {id : UUID} (ran : newUuid source w = .ok (id, w')) :
    id = source.uuids w.drawnUuids ∧ w'.customers = w.customers ∧
      w'.drawnUuids = w.drawnUuids + 1 := by
  obtain ⟨world, u, read, rest⟩ := bind_ok.mp ran
  obtain ⟨rfl, rfl⟩ := get_ok.mp read
  obtain ⟨_, v, moved, returned⟩ := bind_ok.mp rest
  obtain rfl := modify_ok.mp moved
  obtain ⟨rfl, rfl⟩ := pure_ok.mp returned
  exact ⟨rfl, rfl, rfl⟩

theorem newCustomer_spec {persona : CustomerPersona} {selection : Selection}
    (ran : newCustomer source config persona w = .ok (selection, w')) :
    Chooses source w w' selection := by
  obtain ⟨now, u, read, rest⟩ := bind_ok.mp ran
  obtain ⟨customer, v, created, returned⟩ := bind_ok.mp rest
  obtain ⟨rfl, rfl⟩ := pure_ok.mp returned
  refine Chooses.after (isSilent_awareNow _ _ _ read) ?_
  obtain ⟨world, u', read', rest'⟩ := bind_ok.mp created
  obtain ⟨rfl, rfl⟩ := get_ok.mp read'
  split at rest'
  · exact (raiseError_ok rest').elim
  · obtain ⟨customerId, u₁, first, rest'⟩ := bind_ok.mp rest'
    obtain ⟨deviceId, u₂, second, rest'⟩ := bind_ok.mp rest'
    obtain ⟨address, u₃, third, returned'⟩ := bind_ok.mp rest'
    obtain ⟨rfl, rfl⟩ := pure_ok.mp returned'
    obtain ⟨rfl, customers₁, drawn₁⟩ := newUuid_ok first
    obtain ⟨rfl, customers₂, drawn₂⟩ := newUuid_ok second
    have silent := isSilent_ipAddress _ _ _ third
    refine .creates rfl rfl ?_ ?_
    · rw [silent.1, customers₂, customers₁]
    · rw [silent.2, drawn₂, drawn₁]

theorem selectByPersona_spec {persona : CustomerPersona} {selection : Selection}
    (ran : selectByPersona source config persona w = .ok (selection, w')) :
    Chooses source w w' selection := by
  obtain ⟨found, u, looked, rest⟩ := bind_ok.mp ran
  obtain ⟨silent, member⟩ := candidate_spec looked
  refine Chooses.after silent ?_
  cases found with
  | none => exact newCustomer_spec rest
  | some customer =>
    change (if _ then _ else _ : Gen Selection) u = _ at rest
    split at rest
    · obtain ⟨create, v, preferred, rest⟩ := bind_ok.mp rest
      have quiet : IsSilent (preferNew source config) := silentFrame.preferNew.returns
      refine Chooses.after (quiet _ _ _ preferred) ?_
      split at rest
      · exact newCustomer_spec rest
      · obtain ⟨rfl, rfl⟩ := pure_ok.mp rest
        refine .returns rfl ⟨customer, ?_, rfl⟩ (Silent.refl _)
        rw [(quiet _ _ _ preferred).1, silent.1]
        exact member customer rfl
    · exact newCustomer_spec rest

theorem selectCustomer_spec {persona : CustomerPersona} {selection : Selection}
    (ran : selectCustomer source config persona w = .ok (selection, w')) :
    Chooses source w w' selection := by
  unfold selectCustomer at ran
  split at ran
  · obtain ⟨found, u, looked, rest⟩ := bind_ok.mp ran
    obtain ⟨silent, known⟩ := takeoverCandidate_spec looked
    cases found with
    | none => exact Chooses.after silent (selectByPersona_spec rest)
    | some customer =>
      obtain ⟨rfl, rfl⟩ := pure_ok.mp rest
      exact .returns rfl (known customer rfl) silent
  · exact selectByPersona_spec ran

/-! ### Events -/

/-- The code emits events of the customer `c` that follow on a stage. -/
structure Emits (source : Source) (c : UUID) (w w' : World) (stage : Stage)
    (events : List EventEnvelope) (stage' : Stage) : Prop where
  draws : Draws source w w' (allNewIds events) 0
  lives : Lives stage events stage'
  belongs : ∀ event ∈ events, event.payload.customerId = some c

theorem Emits.silent {c : UUID} {stage : Stage} (silent : Silent w w') :
    Emits source c w w' stage [] stage :=
  ⟨silent.draws, .nil stage, by simp⟩

theorem Emits.trans {c : UUID} {w'' : World} {stage middle last : Stage}
    {events events' : List EventEnvelope} (first : Emits source c w w' stage events middle)
    (second : Emits source c w' w'' middle events' last) :
    Emits source c w w'' stage (events ++ events') last where
  draws := by
    rw [allNewIds_append]
    exact first.draws.trans second.draws
  lives := first.lives.append second.lives
  belongs := by
    intro event mem
    rcases List.mem_append.mp mem with early | late
    · exact first.belongs event early
    · exact second.belongs event late

theorem Emits.after {c : UUID} {w₀ : World} {stage last : Stage} {events : List EventEnvelope}
    (silent : Silent w₀ w) (emits : Emits source c w w' stage events last) :
    Emits source c w₀ w' stage events last :=
  (Emits.silent silent).trans emits

/-- An event that brings no other identifier with it. -/
theorem envelope_emits {correlationId c : UUID} {payload : Payload} {timestamp : Instant}
    {event : EventEnvelope} {stage stage' : Stage}
    (ran : envelope source correlationId payload timestamp w = .ok (event, w'))
    (none_ : creates payload = none) (follows : Follows stage payload stage')
    (customer : payload.customerId = some c) : Emits source c w w' stage [event] stage' := by
  obtain ⟨draws, rfl, -⟩ := envelope_draws ran
  refine ⟨?_, .cons follows (.nil _), by simpa using customer⟩
  simpa [newIds, none_] using draws

/-- An event under an identifier drawn for it. -/
theorem Emits.created {w₀ : World} {c id : UUID} {event : EventEnvelope} {stage stage' : Stage}
    (drawn : Draws source w₀ w [id] 0) (draws : Draws source w w' [event.eventId] 0)
    (creates_ : creates event.payload = some id) (follows : Follows stage event.payload stage')
    (customer : event.payload.customerId = some c) :
    Emits source c w₀ w' stage [event] stage' := by
  refine ⟨?_, .cons follows (.nil _), by simpa using customer⟩
  simpa [newIds, creates_] using drawn.trans draws

theorem Silent.then {w'' : World} {ids : List UUID} {spare : Nat} (silent : Silent w w')
    (draws : Draws source w' w'' ids spare) : Draws source w w'' ids spare := by
  have quiet : Draws source w w' [] 0 := silent.draws
  simpa using quiet.trans draws

theorem Draws.quiet {w'' : World} {ids : List UUID} {spare : Nat}
    (draws : Draws source w w' ids spare) (silent : Silent w' w'') :
    Draws source w w'' ids spare := by
  simpa using draws.trans silent.draws

/-! ### Browsing -/

theorem register_spec {selection : Selection} {correlationId : UUID} {events : List EventEnvelope}
    (ran : register rt source selection correlationId w = .ok (events, w')) :
    (selection.returning = true ∧ events = [] ∧ Silent w w') ∨
    (selection.returning = false ∧ ∃ event p, events = [event] ∧ event.payload = .userRegistered p ∧
      p.customerId = selection.customer.customerId ∧
      event.eventId = source.uuids w.drawnUuids ∧ Draws source w w' [event.eventId] 0) := by
  unfold register at ran
  split at ran
  · rename_i flag
    obtain ⟨rfl, rfl⟩ := pure_ok.mp ran
    exact .inl ⟨flag, rfl, Silent.refl _⟩
  · rename_i flag
    obtain ⟨timestamp, u, ticked, rest⟩ := bind_ok.mp ran
    obtain ⟨event, v, made, returned⟩ := bind_ok.mp rest
    obtain ⟨rfl, rfl⟩ := pure_ok.mp returned
    have silent := isSilent_nextTimestamp _ _ _ _ ticked
    obtain ⟨draws, payload, -⟩ := envelope_draws made
    obtain ⟨id, v', drawn, returned'⟩ := bind_ok.mp made
    obtain ⟨rfl, rfl⟩ := pure_ok.mp returned'
    refine .inr ⟨by simpa using flag, _, _, rfl, payload, rfl, ?_, silent.then draws⟩
    rw [← silent.2]
    exact (newUuid_ok drawn).1

/-- The identity of a session keeps who the customer is. -/
theorem identityForSession_spec {customer : CustomerState} {profile : PersonaProfile}
    {identity : Identity} (ran : identityForSession source customer profile w = .ok (identity, w')) :
    Draws source w w' [] 1 ∧ identity.customer.customerId = customer.customerId ∧
      identity.customer.persona = customer.persona := by
  obtain ⟨first, u, device, rest⟩ := bind_ok.mp ran
  have same : Draws source w u [] 1 ∧ first.customer.customerId = customer.customerId ∧
      first.customer.persona = customer.persona := by
    obtain ⟨changed, v, drawn, rest⟩ := bind_ok.mp device
    have silent := isSilent_chance _ _ _ _ drawn
    split at rest
    · obtain ⟨deviceId, v₁, new, rest⟩ := bind_ok.mp rest
      obtain ⟨address, v₂, read, returned⟩ := bind_ok.mp rest
      obtain ⟨rfl, rfl⟩ := pure_ok.mp returned
      have draws := silent.then ((newUuid_draws new).quiet (isSilent_ipAddress _ _ _ read))
      exact ⟨draws.weaken (List.nil_sublist _) (by simp), rfl, rfl⟩
    · obtain ⟨deviceId, v₁, read, rest⟩ := bind_ok.mp rest
      obtain ⟨address, v₂, read', returned⟩ := bind_ok.mp rest
      obtain ⟨rfl, rfl⟩ := pure_ok.mp returned
      have quiet := (isSilent_lastOf _ _ _ _ read).trans (isSilent_lastOf _ _ _ _ read')
      have draws : Draws source w _ [] 0 := (silent.trans quiet).draws
      exact ⟨draws.weaken (List.nil_sublist _) (by simp), rfl, rfl⟩
  obtain ⟨abroad, v, drawn, rest⟩ := bind_ok.mp rest
  have silent := isSilent_chance _ _ _ _ drawn
  split at rest
  · obtain ⟨country, v₁, chosen, returned⟩ := bind_ok.mp rest
    obtain ⟨rfl, rfl⟩ := pure_ok.mp returned
    exact ⟨same.1.quiet (silent.trans (isSilent_choice _ _ _ _ chosen)), same.2⟩
  · obtain ⟨rfl, rfl⟩ := pure_ok.mp rest
    exact ⟨same.1.quiet silent, same.2⟩

theorem startSession_emits {identity : Identity} {profile : PersonaProfile}
    {correlationId sessionId : UUID} {event : EventEnvelope} {w₀ : World} {stage : Stage}
    (drawn : newUuid source w₀ = .ok (sessionId, w))
    (ran : startSession source identity profile correlationId sessionId w = .ok (event, w'))
    (known : stage ≠ .unregistered) :
    Emits source identity.customer.customerId w₀ w' stage [event] (.browsing sessionId) := by
  obtain ⟨timestamp, u, ticked, rest⟩ := bind_ok.mp ran
  obtain ⟨device, v, chosen, made⟩ := bind_ok.mp rest
  have silent := (isSilent_nextTimestamp _ _ _ _ ticked).trans
    ((silentFrame.sessionDevice _).returns _ _ _ chosen)
  obtain ⟨draws, payload, -⟩ := envelope_draws made
  refine .created (newUuid_draws drawn) (silent.then draws) ?_ ?_ ?_
  · rw [payload]
    rfl
  · rw [payload]
    exact .visit _ known
  · rw [payload]
    rfl

/-- The catalogue's prices and stocks. -/
theorem catalogue_priced {product : Product} (listed : product ∈ productCatalogue) :
    (∃ n, product.price = .cents n ∧ 10 ≤ n ∧ n ≤ 129990) ∧ product.availableQuantity ≤ 50 := by
  simp only [productCatalogue, List.mem_cons, List.not_mem_nil, or_false] at listed
  rcases listed with rfl | rfl | rfl | rfl
  · exact ⟨⟨129990, rfl, by decide, by decide⟩, by decide⟩
  · exact ⟨⟨24950, rfl, by decide, by decide⟩, by decide⟩
  · exact ⟨⟨79900, rfl, by decide, by decide⟩, by decide⟩
  · exact ⟨⟨44990, rfl, by decide, by decide⟩, by decide⟩

theorem freshProduct_spec {customer : CustomerState} {profile : PersonaProfile}
    {ranked products : List Product} {product : Product}
    (ran : freshProduct source customer profile ranked products w = .ok (product, w')) :
    Silent w w' ∧ product ∈ ranked := by
  unfold freshProduct at ran
  split at ran
  · cases found : ranked[products.length % ranked.length]? with
    | none =>
      rw [found] at ran
      exact (raiseError_ok ran).elim
    | some other =>
      rw [found] at ran
      obtain ⟨rfl, rfl⟩ := pure_ok.mp ran
      exact ⟨Silent.refl _, List.mem_of_getElem? found⟩
  · exact ⟨isSilent_choice _ _ _ _ ran, choice_mem ran⟩

theorem nextProduct_spec {customer : CustomerState} {profile : PersonaProfile}
    {ranked products : List Product} {product : Product}
    (ran : nextProduct source customer profile ranked products w = .ok (product, w')) :
    Silent w w' ∧ (product ∈ ranked ∨ product ∈ products) := by
  unfold nextProduct at ran
  cases last : products.getLast? with
  | none =>
    rw [last] at ran
    exact (freshProduct_spec ran).imp_right Or.inl
  | some other =>
    rw [last] at ran
    change (if _ then _ else _ : Gen Product) w = _ at ran
    split at ran
    · obtain ⟨again, u, drawn, rest⟩ := bind_ok.mp ran
      have silent := isSilent_chance _ _ _ _ drawn
      split at rest
      · obtain ⟨rfl, rfl⟩ := pure_ok.mp rest
        exact ⟨silent, .inr (List.mem_of_getLast? last)⟩
      · exact ⟨silent.trans (freshProduct_spec rest).1, .inl (freshProduct_spec rest).2⟩
    · exact (freshProduct_spec ran).imp_right Or.inl

theorem moreProducts_spec {customer : CustomerState} {profile : PersonaProfile}
    {ranked products viewed : List Product} {n : Nat}
    (ran : moreProducts source customer profile ranked n products w = .ok (viewed, w')) :
    Silent w w' ∧ (∀ product ∈ viewed, product ∈ ranked ∨ product ∈ products) ∧
      viewed.length = products.length + n := by
  induction n generalizing products w with
  | zero =>
    obtain ⟨rfl, rfl⟩ := pure_ok.mp ran
    exact ⟨Silent.refl _, fun _ mem => .inr mem, rfl⟩
  | succ n ih =>
    obtain ⟨product, u, first, rest⟩ := bind_ok.mp ran
    obtain ⟨silent, from_⟩ := nextProduct_spec first
    obtain ⟨silent', member, length⟩ := ih rest
    refine ⟨silent.trans silent', ?_, ?_⟩
    · intro other mem
      rcases member other mem with ranked_ | appended
      · exact .inl ranked_
      · rcases List.mem_append.mp appended with early | last
        · exact .inr early
        · rw [List.mem_singleton.mp last]
          exact from_
    · simp only [length, List.length_append, List.length_singleton]
      omega

/-- At most twenty products are viewed, all of the catalogue. -/
theorem viewProducts_spec {customer : CustomerState} {profile : PersonaProfile}
    {viewed : List Product} (bounded : profile.maxViews ≤ 20)
    (ran : viewProducts source config customer profile w = .ok (viewed, w')) :
    Silent w w' ∧ (∀ product ∈ viewed, product ∈ productCatalogue) ∧ viewed.length ≤ 20 := by
  obtain ⟨count, u, drawn, rest⟩ := bind_ok.mp ran
  obtain ⟨silent, member, length⟩ := moreProducts_spec rest
  have prior : ∀ product ∈ priorProducts customer profile, product ∈ productCatalogue := by
    unfold priorProducts
    split
    · intro product mem
      obtain ⟨id, -, found⟩ := Option.bind_eq_some_iff.mp (Option.mem_toList.mp mem)
      exact List.mem_of_find?_eq_some found
    · simp
  have one : (priorProducts customer profile).length ≤ 1 := by
    unfold priorProducts
    split
    · exact Option.length_toList_le
    · simp
  have few : count ≤ max 1 (min profile.maxViews config.maxProductViews) := by
    unfold randint at drawn
    split at drawn
    · exact (raiseError_ok drawn).elim
    · obtain ⟨i, v, -, returned⟩ := bind_ok.mp drawn
      obtain ⟨rfl, -⟩ := pure_ok.mp returned
      generalize min profile.maxViews config.maxProductViews = most at *
      have below : source.pick i % (most - min profile.minViews most + 1) <
        most - min profile.minViews most + 1 := Nat.mod_lt _ (Nat.succ_pos _)
      omega
  refine ⟨(isSilent_randint _ _ _ _ _ drawn).trans silent, ?_, by omega⟩
  intro product mem
  rcases member product mem with ranked | early
  · exact mem_rankProducts.mp ranked
  · exact prior product early

theorem showProducts_emits {customer : CustomerState} {profile : PersonaProfile}
    {correlationId sessionId : UUID} {products : List Product} {events : List EventEnvelope}
    (listed : ∀ product ∈ products, product ∈ productCatalogue)
    (ran : showProducts source customer profile correlationId sessionId products w =
      .ok (events, w')) :
    Emits source customer.customerId w w' (.browsing sessionId) events (.browsing sessionId) ∧
      events.length = products.length := by
  induction products generalizing w events with
  | nil =>
    obtain ⟨rfl, rfl⟩ := pure_ok.mp ran
    exact ⟨.silent (Silent.refl _), rfl⟩
  | cons product products ih =>
    obtain ⟨timestamp, u, ticked, rest⟩ := bind_ok.mp ran
    obtain ⟨event, v, made, rest⟩ := bind_ok.mp rest
    obtain ⟨more, v', shown, returned⟩ := bind_ok.mp rest
    obtain ⟨rfl, rfl⟩ := pure_ok.mp returned
    obtain ⟨emits, length⟩ := ih (fun other mem => listed other (List.mem_cons_of_mem _ mem)) shown
    obtain ⟨⟨n, price, -, small⟩, stock⟩ := catalogue_priced (listed product List.mem_cons_self)
    have first : Emits source customer.customerId u v (.browsing sessionId) [event]
        (.browsing sessionId) := by
      refine envelope_emits made rfl (.view _ rfl ⟨n, ?_, price⟩ (stock.trans ?_)) rfl
      · omega
      · decide
    refine ⟨.after (isSilent_nextTimestamp _ _ _ _ ticked) (first.trans emits), ?_⟩
    simp [length]

/-- The identifier of a drawn customer is the first of the two that its creation uses. -/
theorem drawn_customer {id : UUID} (first : id = source.uuids w.drawnUuids)
    (customers : w'.customers = w.customers) (drawn : w'.drawnUuids = w.drawnUuids + 2) :
    Draws source w w' [id] 1 where
  customers := customers
  drawn := by omega
  sublist := by
    rw [List.singleton_sublist, mem_segment]
    exact ⟨w.drawnUuids, le_rfl, by omega, first.symm⟩
  few := by
    rw [List.length_singleton]
    omega

/-- What `browse` leaves behind. -/
structure Browsed (source : Source) (w w' : World) (visit : Visit) : Prop where
  profile : visit.profile = (strategyFor visit.customer.persona).profile
  products : ∀ product ∈ visit.products, product ∈ productCatalogue
  short : visit.events.length ≤ 22
  draws : Draws source w w' (allNewIds visit.events) 3
  belongs : ∀ event ∈ visit.events, event.payload.customerId = some visit.customer.customerId
  nonempty : visit.events ≠ []
  returns : visit.returning = true → Known w visit.customer ∧
    ∀ stage, stage ≠ .unregistered → Lives stage visit.events (.browsing visit.sessionId)
  creates : visit.returning = false →
    visit.customer.customerId = source.uuids w.drawnUuids ∧
    (visit.events.head?.map (·.eventId)) = some (source.uuids (w.drawnUuids + 3)) ∧
    Lives .unregistered visit.events (.browsing visit.sessionId)

theorem maxViews_le (persona : CustomerPersona) : (strategyFor persona).profile.maxViews ≤ 20 := by
  cases persona <;> decide

theorem browse_spec {visit : Visit} (ran : browse rt source config w = .ok (visit, w')) :
    Browsed source w w' visit := by
  obtain ⟨_, w₀, unset, ran⟩ := bind_ok.mp ran
  obtain ⟨persona, w₁, chosen, ran⟩ := bind_ok.mp ran
  obtain ⟨selection, w₂, selected, ran⟩ := bind_ok.mp ran
  obtain ⟨_, w₃, started, ran⟩ := bind_ok.mp ran
  obtain ⟨correlationId, w₄, correlated, ran⟩ := bind_ok.mp ran
  obtain ⟨registration, w₅, registered, ran⟩ := bind_ok.mp ran
  obtain ⟨identity, w₆, identified, ran⟩ := bind_ok.mp ran
  obtain ⟨sessionId, w₇, drawn, ran⟩ := bind_ok.mp ran
  obtain ⟨session, w₈, opened, ran⟩ := bind_ok.mp ran
  obtain ⟨products, w₉, viewed, ran⟩ := bind_ok.mp ran
  obtain ⟨views, w₁₀, shown, ran⟩ := bind_ok.mp ran
  obtain ⟨adding, w₁₁, asked, ran⟩ := bind_ok.mp ran
  obtain ⟨adds, w₁₂, decided, returned⟩ := bind_ok.mp ran
  obtain ⟨rfl, rfl⟩ := pure_ok.mp returned
  have cleared : Silent w w₀ := by
    rw [modify_ok.mp unset]
    exact ⟨rfl, rfl⟩
  have start : Silent w w₁ := cleared.trans (isSilent_choosePersona _ _ _ chosen)
  have chooses := Chooses.after start (selectCustomer_spec selected)
  have time := (silentFrame.startLogicalTime _ _ _).returns _ _ _ started
  have correlation := newUuid_draws correlated
  obtain ⟨identity_, sameId, samePersona⟩ := identityForSession_spec identified
  obtain ⟨looking, listed, few⟩ := viewProducts_spec (maxViews_le _) viewed
  have browsing : ∀ stage, stage ≠ .unregistered →
      Emits source identity.customer.customerId w₆ w' stage (session :: views)
        (.browsing sessionId) := by
    intro stage known
    have opening := startSession_emits drawn opened known
    have showing := (showProducts_emits listed shown).1
    have ending : Silent w₁₀ w' :=
      (isSilent_probability _ _ _ _ _ asked).trans (isSilent_chance _ _ _ _ decided)
    have visits := opening.trans (Emits.after looking (showing.trans (.silent ending)))
    simpa using visits
  have browsed := (browsing .registered (by exact Stage.noConfusion)).draws
  have length : views.length ≤ 20 := by
    rw [(showProducts_emits listed shown).2]
    exact few
  have profile : (strategyFor selection.customer.persona).profile =
      (strategyFor identity.customer.persona).profile := by rw [samePersona]
  have own : ∀ event ∈ session :: views,
      event.payload.customerId = some identity.customer.customerId :=
    (browsing .registered (by exact Stage.noConfusion)).belongs
  rcases register_spec registered with ⟨flag, rfl, silent⟩ |
    ⟨flag, event, p, rfl, payload, customerId, eventId, draws⟩
  · -- A returning customer: all that is drawn before the session is the correlation.
    cases chooses with
    | creates no => rw [flag] at no; cases no
    | returns _ known quiet =>
      have before := ((quiet.trans time).then correlation).quiet silent
      have whole := (before.trans identity_).trans browsed
      refine ⟨profile, listed, ?_, ?_, own, by simp, fun _ => ⟨?_, ?_⟩, fun no => ?_⟩
      · simp only [List.nil_append, List.length_cons]
        omega
      · refine whole.weaken ?_ ?_
        · exact List.sublist_append_right _ _
        · simp only [List.append_nil, List.nil_append, List.length_append, List.length_singleton]
          omega
      · obtain ⟨state, member, same⟩ := known.known
        exact ⟨state, member, same.trans sameId.symm⟩
      · intro stage known
        exact (browsing stage known).lives
      · exact absurd (flag.symm.trans no) (by decide)
  · -- A new one: its identifier, its device, the correlation and the registration.
    cases chooses with
    | returns yes => rw [flag] at yes; cases yes
    | creates _ first customers drawn =>
      have creation := drawn_customer first customers drawn
      have before := ((creation.quiet time).trans correlation).trans draws
      have whole := (before.trans identity_).trans browsed
      have ids : allNewIds (event :: session :: views) =
          selection.customer.customerId :: event.eventId :: allNewIds (session :: views) := by
        simp [newIds, payload, creates, customerId]
      refine ⟨profile, listed, ?_, ?_, ?_, by simp, fun yes => ?_, fun _ => ⟨?_, ?_, ?_⟩⟩
      · simp only [List.singleton_append, List.length_cons]
        omega
      · rw [List.singleton_append, ids]
        refine whole.weaken ?_ ?_
        · simp
        · simp only [List.append_nil, List.length_append, List.length_cons, List.length_nil]
          omega
      · intro other mem
        rcases List.mem_cons.mp mem with rfl | later_
        · rw [payload, sameId, ← customerId]
          rfl
        · exact own other later_
      · exact absurd (flag.symm.trans yes) (by decide)
      · exact sameId.trans first
      · rw [List.singleton_append, List.head?_cons, Option.map_some, eventId,
          (newUuid_ok correlated).2.2, time.2, drawn]
      · have follows : Follows .unregistered event.payload .registered := by
          rw [payload]
          exact .register p
        exact .cons follows (browsing .registered (by exact Stage.noConfusion)).lives

end

end CommercePlatform.Generator
