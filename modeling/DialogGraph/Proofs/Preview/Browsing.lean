import DialogGraph.Proofs.Json.Legible
import DialogGraph.Proofs.Preview.Routing
import DialogGraph.Proofs.Preview.Tale
import DialogGraph.Proofs.Preview.Termination
import DialogGraph.Proofs.Script.Paging

/-!
# Turning the pages of a catalog

A conversation that waits at a catalog shows one of its pages, and keeps the number of that page in
a variable. A press of a button that turns the page shows the neighbour, or the same page again at
either end, so that every product can be come to by pressing buttons that are shown.

Only at a block with an empty id, the presses are ignored.
-/

namespace DialogGraph.Preview

open DialogGraph.Catalog DialogGraph.Number

def Session.offered (session : Session) : List String :=
  (session.transcript.back?.map fun entry => entry.buttons.map Offer.tag).getD []

def pageText (page pages : Nat) : String :=
  "🛍 Catalog (page " ++ natText (page + 1) ++ "/" ++ natText pages ++ ")"

/-- The conversation waits at a catalog and shows a page of it, with the products whose places fall
on the page and the buttons that turn to its neighbours. -/
structure Shows (id : String) (products : List Product) (page : Nat) (session : Session) : Prop where
  current : session.current = some id
  waiting : session.waiting = some .callback
  held : session.value? (Visit.pageVariable id) = some (.int page)
  range : page < pageCount products.length
  text : session.transcript.back?.map Entry.text = some (pageText page (pageCount products.length))
  back : previousTag ∈ session.offered ↔ 0 < page
  on : nextTag ∈ session.offered ↔ page + 1 < pageCount products.length
  chosen : ∀ i, productTag i ∈ session.offered ↔ i < products.length ∧ i / pageSize = page

theorem Shows.tell {id : String} {products : List Product} {page : Nat} {session : Session}
    (hshows : Shows id products page session) (event : Trace) :
    Shows id products page (session.tell event) :=
  ⟨hshows.current, hshows.waiting, hshows.held, hshows.range, hshows.text, hshows.back, hshows.on,
    hshows.chosen⟩

/-! ### Tags -/

theorem productTag_injective : Function.Injective productTag := by
  intro i j hsame
  have hchars := congrArg String.toList hsame
  simp only [productTag, String.toList_append] at hchars
  exact natText_injective (String.toList_injective (List.append_cancel_left hchars))

/-- The tag of a product is none of those that turn the page. -/
theorem productTag_ne {tag : String} (htag : ¬productTagStart.toList <+: tag.toList) (i : Nat) :
    productTag i ≠ tag := by
  rintro rfl
  rw [productTag, String.toList_append] at htag
  exact htag (List.prefix_append _ _)

theorem productTag_ne_previousTag (i : Nat) : productTag i ≠ previousTag :=
  productTag_ne (by decide +kernel) i

theorem productTag_ne_nextTag (i : Nat) : productTag i ≠ nextTag :=
  productTag_ne (by decide +kernel) i

/-! ### Showing a page -/

variable {id : String} {products : List Product} {session : Session}

theorem tags_of_productOffers {items : List (Nat × Product)} {offers : List Offer}
    (hoffers : items.mapM Visit.productOffer = .ok offers) :
    offers.map Offer.tag = items.map fun item => productTag item.1 := by
  have hall := mapM_eq_ok_iff.1 hoffers
  clear hoffers
  induction hall with
  | nil => rfl
  | cons hfirst _ ih =>
    obtain ⟨price, -, hoffer⟩ := bind_eq_ok_iff.1 hfirst
    cases hoffer
    rw [List.map_cons, List.map_cons, ih]

/-- Every product of a page has a button, as its price can be shown. -/
theorem exists_productOffers (hlegible : ∀ product ∈ products, product.price.Legible) (page : Nat) :
    ∃ offers, (pageItems products page).mapM Visit.productOffer = .ok offers := by
  apply exists_mapM_eq_ok
  rintro ⟨i, product⟩ hitem
  obtain ⟨hproduct, -⟩ := mem_pageItems_iff.1 hitem
  obtain ⟨shown, hshown⟩ := (hlegible product (List.mem_of_getElem? hproduct)).display
  exact ⟨_, by rw [Visit.productOffer, hshown]; rfl⟩

/-- The tags below a page, besides those of the products. -/
theorem mem_tags_pageOffers_iff {page pages : Nat} {tag : String} :
    tag ∈ (Visit.pageOffers page pages).map Offer.tag ↔
      tag = previousTag ∧ 0 < page ∨ tag = nextTag ∧ page + 1 < pages := by
  rw [Visit.pageOffers, List.map_append, List.mem_append]
  apply or_congr
  · by_cases hback : 0 < page <;> simp [hback]
  · by_cases hon : page + 1 < pages <;> simp [hon]

theorem mem_tags_pageItems_iff {page : Nat} {tag : String} :
    tag ∈ (pageItems products page).map (fun item => productTag item.1) ↔
      ∃ i, i < products.length ∧ i / pageSize = page ∧ tag = productTag i := by
  simp only [List.mem_map, Prod.exists, mem_pageItems_iff]
  constructor
  · rintro ⟨i, product, ⟨hproduct, hpage⟩, rfl⟩
    exact ⟨i, (List.getElem?_eq_some_iff.1 hproduct).1, hpage, rfl⟩
  · rintro ⟨i, hi, hpage, rfl⟩
    exact ⟨i, products[i], ⟨List.getElem?_eq_getElem hi, hpage⟩, rfl⟩

def Session.showing (session : Session) (id : String) (page pages : Nat) (offers : List Offer) :
    Session :=
  { (session.bind (Visit.pageVariable id) (.int page)).say (pageText page pages)
      (offers ++ Visit.pageOffers page pages) with waiting := some .callback }

theorem showPage_apply {page : Nat} {offers : List Offer}
    (hpage : pageNumber (pageCount products.length)
      ((session.value? (Visit.pageVariable id)).getD (.int 0)) = page)
    (hoffers : (pageItems products page).mapM Visit.productOffer = .ok offers) :
    Visit.showPage id products session =
      (.ok ⟨⟩, session.showing id page (pageCount products.length) offers) := by
  simp only [Visit.showPage, Act.bind_apply, Act.get_apply, Act.set_apply, Act.liftM_text, hpage,
    hoffers]
  rfl

theorem mem_offered_showing_iff {page pages : Nat} {offers : List Offer}
    (hoffers : (pageItems products page).mapM Visit.productOffer = .ok offers) {tag : String} :
    tag ∈ (session.showing id page pages offers).offered ↔
      (∃ i, i < products.length ∧ i / pageSize = page ∧ tag = productTag i) ∨
        tag = previousTag ∧ 0 < page ∨ tag = nextTag ∧ page + 1 < pages := by
  have hbuttons : (session.showing id page pages offers).offered =
      (offers ++ Visit.pageOffers page pages).map Offer.tag := by
    simp only [Session.offered, Session.showing, Session.say, Session.enter, Array.back?_push]
    rfl
  rw [hbuttons, List.map_append, List.mem_append, tags_of_productOffers hoffers,
    mem_tags_pageItems_iff, mem_tags_pageOffers_iff]

theorem shows_showing {page : Nat} {offers : List Offer} (hcurrent : session.current = some id)
    (hrange : page < pageCount products.length)
    (hoffers : (pageItems products page).mapM Visit.productOffer = .ok offers) :
    Shows id products page (session.showing id page (pageCount products.length) offers) := by
  have hturn : previousTag ≠ nextTag := by decide
  refine ⟨hcurrent, rfl, ?_, hrange, ?_, ?_, ?_, fun i => ?_⟩
  · exact (Assoc.get?_insert ..).trans (if_pos rfl)
  · simp only [Session.showing, Session.say, Session.enter, Array.back?_push]
    rfl
  · simp [mem_offered_showing_iff hoffers, hturn, (productTag_ne_previousTag _).symm]
  · simp [mem_offered_showing_iff hoffers, hturn.symm, (productTag_ne_nextTag _).symm]
  · simp only [mem_offered_showing_iff hoffers, productTag_ne_previousTag, productTag_ne_nextTag,
      false_and, or_false, productTag_injective.eq_iff]
    constructor
    · rintro ⟨j, hj, hpage, rfl⟩
      exact ⟨hj, hpage⟩
    · rintro ⟨hi, hpage⟩
      exact ⟨i, hi, hpage, rfl⟩

/-- Showing a page of a catalog shows the page that the page variable asks for. -/
theorem shows_showPage (hlegible : ∀ product ∈ products, product.price.Legible)
    (hcurrent : session.current = some id) :
    ∃ after, Visit.showPage id products session = (.ok ⟨⟩, after) ∧
      Shows id products (pageNumber (pageCount products.length)
        ((session.value? (Visit.pageVariable id)).getD (.int 0))) after := by
  obtain ⟨offers, hoffers⟩ := exists_productOffers hlegible (pageNumber (pageCount products.length)
    ((session.value? (Visit.pageVariable id)).getD (.int 0)))
  exact ⟨_, showPage_apply rfl hoffers, shows_showing hcurrent (pageNumber_lt _ _) hoffers⟩

/-! ### Turning the pages -/

/-- A press of a button that turns the page. -/
inductive Turn where
  | back
  | on
  deriving Repr, DecidableEq

def Turn.tag : Turn → String
  | back => previousTag
  | on => nextTag

def Turn.page (pages page : Nat) : Turn → Nat
  | back => page - 1
  | on => min (page + 1) (pages - 1)

def Turn.change : Turn → Int
  | back => -1
  | on => 1

variable {flow : Flow} {block : Block} {settings : CatalogSettings} {page : Nat}

/-- The page variable may leave the range of pages; the page that is shown does not. -/
theorem pageNumber_change {pages : Nat} (hpage : page < pages) (hpages : pages ≤ 2 ^ 53)
    (turn : Turn) : pageNumber pages (.int (page + turn.change)) = turn.page pages page := by
  cases turn with
  | back =>
    rw [Turn.change, pageNumber_int _ (by omega), Turn.page]
    omega
  | on =>
    rw [Turn.change, pageNumber_int _ (by omega), Turn.page]
    omega

/-- A catalog takes a press by changing the page variable and showing a page anew. -/
theorem toCatalog_turn (hread : Catalog.read (some settings.source) settings.products = .ok products)
    (hheld : session.value? (Visit.pageVariable id) = some (.int page)) (hpage : page ≤ 2 ^ 53)
    (turn : Turn) :
    Answer.toCatalog id settings turn.tag session = (do Visit.showPage id products; stay : Visit)
      (session.bind (Visit.pageVariable id) (.int (page + turn.change))) := by
  have hwhole : (Value.int page).wholeOr 0 = page := Value.wholeOr_int (by omega) 0
  have hchange : (if turn.tag = previousTag then -1 else 1 : Int) = turn.change := by
    cases turn <;> rfl
  have hturns : (turn.tag = previousTag || turn.tag = nextTag) = true := by cases turn <;> rfl
  simp only [Answer.toCatalog, Act.bind_apply, Act.liftM_catalog, hread, Except.mapError, hturns,
    if_true, hchange, Act.modify_apply, hheld, Option.getD_some, hwhole]

/-- A catalog with products, at a block that is found again in the flow. -/
structure Stocked (flow : Flow) (block : Block) (settings : CatalogSettings)
    (products : List Product) : Prop where
  found : flow.block? block.id = some block
  named : block.id ≠ ""
  config : block.config = ⟨.catalog, settings⟩
  read : Catalog.read (some settings.source) settings.products = .ok products
  length : products.length < 2 ^ 53

/-- One press turns one page. -/
theorem takePress_turn (hstocked : Stocked flow block settings products)
    (hshows : Shows block.id products page session) (turn : Turn) :
    ∃ after, takePress flow session turn.tag = (after, .ended) ∧
      Shows block.id products (turn.page (pageCount products.length) page) after := by
  have hblock : currentBlock? flow session = some block :=
    currentBlock?_eq_some_iff.2 ⟨hstocked.found, hshows.current, hstocked.named⟩
  have hpress : press? block.id block.config = some (Answer.toCatalog block.id settings) := by
    rw [hstocked.config]
    rfl
  have hpages := pageCount_le hstocked.length
  have hrange := hshows.range
  let heard := session.enter { sender := .user, text := "[" ++ turn.tag ++ "]" }
  let asked := heard.bind (Visit.pageVariable block.id) (.int (page + turn.change))
  have hasked : asked.value? (Visit.pageVariable block.id) = some (.int (page + turn.change)) :=
    (Assoc.get?_insert ..).trans (if_pos rfl)
  have hcurrent : asked.current = some block.id := hshows.current
  obtain ⟨after, hran, hafter⟩ := shows_showPage (legible_of_read hstocked.read) hcurrent
  rw [hasked, Option.getD_some, pageNumber_change hrange hpages] at hafter
  have hanswer : Answer.toCatalog block.id settings turn.tag heard = (.ok none, after) := by
    have hheld : heard.value? (Visit.pageVariable block.id) = some (.int page) := hshows.held
    rw [toCatalog_turn hstocked.read hheld (by omega), Act.bind_apply, hran]
    rfl
  refine ⟨after, ?_, hafter⟩
  rw [takePress_eq hshows.waiting hblock hpress, answerAt, guarded_of_ok block.id hanswer]

/-- However often the pages are turned, the page shown is the one that the presses turn to. -/
theorem playThrough_turns {setting : Setting} (hstocked : Stocked setting.flow block settings products)
    (steps : Nat) (hshows : Shows block.id products page session) (turns : List Turn) :
    ∃ later, playThrough setting steps session (turns.map fun turn => .press turn.tag) =
        some later ∧
      Shows block.id products
        (turns.foldl (fun page turn => turn.page (pageCount products.length) page) page) later := by
  induction turns generalizing session page with
  | nil => exact ⟨session, rfl, hshows⟩
  | cons turn turns ih =>
    obtain ⟨after, hpress, hafter⟩ := takePress_turn hstocked hshows turn
    obtain ⟨later, hplayed, hlater⟩ := ih hafter
    refine ⟨later, ?_, hlater⟩
    rw [List.map_cons, playThrough_of_ended (.press turn.tag) hpress]
    exact hplayed

/-- What comes of pressing buttons that turn the page, each of them shown when it is pressed. -/
inductive Reaches (flow : Flow) : Session → Session → Prop
  | here (session : Session) : Reaches flow session session
  | press {session after later : Session} (turn : Turn) (hoffered : turn.tag ∈ session.offered)
      (hpress : takePress flow session turn.tag = (after, .ended))
      (hrest : Reaches flow after later) : Reaches flow session later

/-- Every page can be come to from every other, one page at a time. -/
theorem exists_reaches (hstocked : Stocked flow block settings products) {target : Nat}
    (htarget : target < pageCount products.length)
    (hshows : Shows block.id products page session) :
    ∃ there, Reaches flow session there ∧ Shows block.id products target there := by
  have hrange := hshows.range
  induction hdistance : (page - target) + (target - page) generalizing session page with
  | zero =>
    obtain rfl : page = target := by omega
    exact ⟨session, .here session, hshows⟩
  | succ distance ih =>
    -- the button towards the target is shown, as the target is a page
    obtain ⟨turn, hoffered, hcloser⟩ : ∃ turn : Turn, turn.tag ∈ session.offered ∧
        (turn.page (pageCount products.length) page - target) +
          (target - turn.page (pageCount products.length) page) = distance := by
      rcases Nat.lt_or_ge target page with hless | hge
      · exact ⟨.back, hshows.back.2 (by omega), by simp only [Turn.page]; omega⟩
      · exact ⟨.on, hshows.on.2 (by omega), by simp only [Turn.page]; omega⟩
    obtain ⟨after, hpress, hafter⟩ := takePress_turn hstocked hshows turn
    obtain ⟨there, hrest, hthere⟩ := ih hafter hafter.range hcloser
    exact ⟨there, .press turn hoffered hpress hrest, hthere⟩

/-! ### Catalogs where a conversation waits -/

/-- A catalog at which a conversation comes to wait has products, and shows the page that the page
variable asks for. -/
theorem shows_of_parked {world : World} {parked : Session}
    (hconfig : block.config = ⟨.catalog, settings⟩) (hcurrent : session.current = some block.id)
    (hvisit : visitBlock world session block = (parked, .ended))
    (hwaiting : parked.waiting ≠ none) :
    ∃ products, Catalog.read (some settings.source) settings.products = .ok products ∧
      products ≠ [] ∧ Shows block.id products (pageNumber (pageCount products.length)
        ((session.value? (Visit.pageVariable block.id)).getD (.int 0))) parked := by
  obtain ⟨visit, after, waiting, hfound, hran, -, rfl⟩ := exists_stay hvisit hwaiting
  rw [hconfig] at hfound
  obtain rfl := Option.some.inj hfound
  simp only [Visit.catalog, Act.bind_apply, Act.liftM_catalog] at hran
  cases hread : Catalog.read (some settings.source) settings.products with
  | error fault =>
    rw [hread] at hran
    cases hran
  | ok products =>
    rw [hread] at hran
    simp only [Except.mapError] at hran
    by_cases hempty : products.isEmpty
    · rw [if_pos hempty] at hran
      cases hran
    · rw [if_neg hempty] at hran
      obtain ⟨shown, hshown, hshows⟩ := shows_showPage (legible_of_read hread) hcurrent
      rw [Act.bind_apply, hshown] at hran
      cases hran
      refine ⟨products, rfl, ?_, hshows.tell _⟩
      rintro rfl
      exact hempty rfl

/-- What the presses of the buttons that turn the page come to at a catalog where a conversation
waits. -/
structure Browsed (setting : Setting) (id : String) (products : List Product) (page : Nat)
    (parked : Session) : Prop where
  shows : Shows id products page parked
  /-- Any number of presses turns to the page it should, and from there every product can be come
  to. -/
  turned : id ≠ "" → ∀ (steps : Nat) (turns : List Turn), ∃ later,
    playThrough setting steps parked (turns.map fun turn => .press turn.tag) = some later ∧
      Shows id products
        (turns.foldl (fun page turn => turn.page (pageCount products.length) page) page) later ∧
      ∀ i < products.length, ∃ there, Reaches setting.flow later there ∧
        productTag i ∈ there.offered
  /-- At a block with an empty id, every press is ignored. -/
  ignored : id = "" → ∀ tag, takePress setting.flow parked tag = (parked, .ended)

/-- Any list of products is cut into pages that show each product once, and at every catalog where a
conversation waits, the pages can be turned, unless the id of the block is empty. -/
theorem paged_and_browsed (setting : Setting) :
    (∀ {α : Type} (products : List α), products.length < 2 ^ 53 → Paged products) ∧
      ∀ {block : Block} {settings : CatalogSettings},
        setting.flow.block? block.id = some block → block.config = ⟨.catalog, settings⟩ →
        ∀ {world : World} {session parked : Session}, session.current = some block.id →
          visitBlock world session block = (parked, .ended) → parked.waiting ≠ none →
          ∃ products, Catalog.read (some settings.source) settings.products = .ok products ∧
            products ≠ [] ∧ (products.length < 2 ^ 53 → Browsed setting block.id products
              (pageNumber (pageCount products.length)
                ((session.value? (Visit.pageVariable block.id)).getD (.int 0))) parked) := by
  refine ⟨fun products => paged, ?_⟩
  intro block settings hfound hconfig world session parked hcurrent hvisit hwaiting
  obtain ⟨products, hread, hsome, hshows⟩ := shows_of_parked hconfig hcurrent hvisit hwaiting
  refine ⟨products, hread, hsome, fun hlength => ⟨hshows, fun hnamed steps turns => ?_, ?_⟩⟩
  · have hstocked : Stocked setting.flow block settings products :=
      ⟨hfound, hnamed, hconfig, hread, hlength⟩
    obtain ⟨later, hplayed, hlater⟩ := playThrough_turns hstocked steps hshows turns
    refine ⟨later, hplayed, hlater, fun i hi => ?_⟩
    have hpage : i / pageSize < pageCount products.length := by
      rw [pageCount, pageSize]
      omega
    obtain ⟨there, hreaches, hthere⟩ := exists_reaches hstocked hpage hlater
    exact ⟨there, hreaches, (hthere.chosen i).2 ⟨hi, rfl⟩⟩
  · rintro hnameless tag
    exact takePress_nameless (hnameless ▸ hshows.current) tag

def nineProducts : CatalogSettings where
  source := .csv
  products := "name\nP0\nP1\nP2\nP3\nP4\nP5\nP6\nP7\nP8"

theorem length_of_read_nineProducts
    (hread : Catalog.read (some .csv) nineProducts.products = .ok products) :
    products.length = 9 := by
  have hlength : (Catalog.read (some .csv) nineProducts.products).toOption.map List.length =
      some 9 := by decide +kernel
  rw [hread] at hlength
  exact Option.some.inj hlength

/-- A start block before the catalog of nine products, under the given id. -/
def shopEdits (id : String) : List Edit :=
  [.create (.named (.text "start")) (some "block_1") (.int 0) (.int 0),
    .create (.named (.text "catalog")) (some id) (.int 1) (.int 0),
    .update id "source" (.text "csv"), .update id "products" (.text nineProducts.products),
    .connect "block_1" "default" id (some "conn_1")]

/-- The page variable holds a text that asks for a page behind the last. -/
theorem paged_and_browsed_shopEdits :
    Paged ["P0", "P1"] ∧ ∃ products parked,
      Catalog.read (some .csv) nineProducts.products = .ok products ∧ products.length = 9 ∧
        Browsed (quietSetting (shopEdits "k")) "k" products 1 parked := by
  have hpages := paged_and_browsed (quietSetting (shopEdits "k"))
  refine ⟨hpages.1 ["P0", "P1"] (by decide), ?_⟩
  let block : Block :=
    ⟨"k", ⟨.catalog, nineProducts⟩, .int 1, .int 0, some "block_1", [("default", none)]⟩
  let world : World := { complete := fun _ => .ok "", sleep := fun _ => .ok () }
  let session : Session := { current := some "k", bindings := [("_catalog_page_k", .text "7")] }
  have hfound : (quietSetting (shopEdits "k")).flow.block? block.id = some block := by rfl
  have hended : (visitBlock world session block).2.Ended ∧
      (visitBlock world session block).1.waiting = some .callback := by decide +kernel
  rcases hvisit : visitBlock world session block with ⟨parked, progress⟩
  rw [hvisit] at hended
  obtain ⟨hover, hwaiting⟩ := hended
  obtain rfl := Progress.eq_ended hover
  have hsome : parked.waiting ≠ none := by
    rw [hwaiting]
    nofun
  obtain ⟨products, hread, -, hbrowsed⟩ := hpages.2 hfound rfl rfl hvisit hsome
  have hlength := length_of_read_nineProducts hread
  have hpage : pageNumber (pageCount 9) (.text "7") = 1 := by decide +kernel
  have hheld : session.value? (Visit.pageVariable block.id) = some (.text "7") := rfl
  rw [hlength, hheld, Option.getD_some, hpage] at hbrowsed
  exact ⟨products, parked, hread, hlength, hbrowsed (by decide)⟩

/-- Where the id of the catalog is empty, the preview offers the next page and does not turn to
it. -/
theorem not_turned_shopEdits :
    let setting := quietSetting (shopEdits "")
    let shown := (run setting 9 (begin setting.flow {}).1 (begin setting.flow {}).2).1
    setting.flow.WellFormed ∧ shown.current = some "" ∧ shown.waiting = some .callback ∧
      nextTag ∈ shown.offered ∧
      shown.transcript.back?.map Entry.text = some (pageText 0 2) ∧
      takePress setting.flow shown nextTag = (shown, .ended) ∧
      ∀ after, takePress setting.flow shown nextTag = (after, .ended) →
        after.transcript.back?.map Entry.text ≠ some (pageText 1 2) := by
  intro setting shown
  have hshown : shown.current = some "" ∧ shown.waiting = some .callback ∧
      nextTag ∈ shown.offered ∧
      shown.transcript.back?.map Entry.text = some (pageText 0 2) := by decide +kernel
  have hignored : takePress setting.flow shown nextTag = (shown, .ended) :=
    takePress_nameless hshown.1 nextTag
  refine ⟨wellFormed_quietSetting _, hshown.1, hshown.2.1, hshown.2.2.1, hshown.2.2.2, hignored, ?_⟩
  intro after hafter hturned
  rw [hignored] at hafter
  rw [← (Prod.mk.inj hafter).1, hshown.2.2.2] at hturned
  exact absurd (Option.some.inj hturned) (by decide +kernel)

end DialogGraph.Preview
