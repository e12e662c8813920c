import SupportPlatform.Platform.World

/-!
# Lineage of events

The outbox only ever grows, and what a row says about its event never changes. So every copy of an
event, in a queue, in the hands of a worker or held by a relay, still says what a committed row
says, and a planned projection is one of the event it is committed for.
-/

namespace SupportPlatform

namespace Db

/-- What the outbox says about its events, in commit order. -/
def log (db : Db) : List (Uuid × Payload × Option String) :=
  db.outbox.rows.map EventOutbox.content

lemma log_of_append {db : Db} {outbox : Table EventOutbox} {rows : List EventOutbox}
    (h : outbox.rows = db.outbox.rows ++ rows) :
    outbox.rows.map EventOutbox.content = db.log ++ rows.map EventOutbox.content := by
  rw [h, List.map_append, log]

end Db

lemma Call.Writes.log {env : Env} {db db' : Db} {call : Call} (h : Call.Writes env db call db') :
    db.log <+: db'.log := by
  cases h with
  | ticketsCreate _ ho => exact ⟨_, (Db.log_of_append ho).symm⟩
  | ticketsUpdate _ ho => exact ⟨_, (Db.log_of_append ho).symm⟩
  | ticketsAssign _ ho => exact ⟨_, (Db.log_of_append ho).symm⟩
  | commentsCreate _ ho => exact ⟨_, (Db.log_of_append ho).symm⟩
  | _ => exact List.prefix_rfl

lemma Call.Executes.log {env : Env} {db db' : Db} {call call' : Call}
    (h : Call.Executes env db call db' call') : db.log <+: db'.log := by
  cases h with
  | wrote h => exact h.log
  | _ => exact List.prefix_rfl

lemma OutboxRelayService.Advances.log {cfg : Config} {env : Env} {db db' : Db}
    {broker broker' : Broker} {tick : Tick} {tick' : Option Tick}
    (h : Advances cfg env db broker tick db' broker' tick') : db'.log = db.log := by
  cases h with
  | @updated _ _ _ f hf hcontent _ =>
    exact Table.map_rows_modifyWhere _ _ f hf _ fun r _ => hcontent r
  | _ => rfl

lemma OutboxRelayService.Steps.log {cfg : Config} {db db' : Db} {broker broker' : Broker}
    {p p' : RelayProcess} (h : Steps cfg db broker p db' broker' p') : db'.log = db.log := by
  cases h with
  | idle _ => rfl
  | advanced _ h _ => exact h.log

lemma Projection.Writes.processedEvents {env : Env} {db db' : Db} {p : Projection}
    (h : p.Writes env db db') : db'.processedEvents = db.processedEvents := by
  cases h <;> rfl

lemma Delivery.Executes.log {db db' : Db} {broker broker' : Broker} {locked : Bool} {d : Delivery}
    {a : DeliveryAction} {d' : Option Delivery}
    (h : d.Executes db broker locked a db' broker' d') : db'.log = db.log := by
  rw [Db.log, Db.log, h.outbox]

namespace World

variable {cfg : Config} {w w' : World} {e : Event}

/-- A step keeps the log and may add to its end. -/
lemma Steps.log (h : Steps cfg w e w') : w.db.log <+: w'.db.log := by
  cases h with
  | proceed _ h => exact h.log
  | relay _ h => exact h.log ▸ List.prefix_rfl
  | consume _ h => exact h.log ▸ List.prefix_rfl
  | finish _ h => exact h.log ▸ List.prefix_rfl
  | _ => exact List.prefix_rfl

/-- Every copy of an event says what a committed outbox row says. -/
structure Sourced (w : World) : Prop where
  queued : ∀ c, ∀ m ∈ w.broker.queues c, m.event.content ∈ w.db.log
  handled : ∀ d ∈ w.deliveries, d.message.event.content ∈ w.db.log
  held : ∀ p ∈ w.relays, ∀ t ∈ p.ticks, ∀ r ∈ t.rows, r.content ∈ w.db.log
  planned : ∀ d ∈ w.deliveries, ∀ p, d.phase = .planned p →
    ∃ env db, p = d.consumer.plan env db d.message.event

lemma sourced_initial (organizations : Table Organization) (users : Table User) (n : Nat) :
    (initial organizations users n).Sourced where
  queued _ _ hm := by cases hm
  handled _ hd := by cases hd
  held p hp t ht := by
    obtain rfl := List.eq_of_mem_replicate hp
    cases ht
  planned _ hd := by cases hd

theorem Steps.sourced (h : Steps cfg w e w') (hw : w.Sourced) : w'.Sourced := by
  have hlog {x : Uuid × Payload × Option String} (hx : x ∈ w.db.log) : x ∈ w'.db.log :=
    h.log.subset hx
  constructor
  case queued =>
    intro c m hm
    cases h.enqueued hm with
    | kept hm => exact hlog (hw.queued c m hm)
    | returned hd hevent => exact hevent ▸ hlog (hw.handled _ hd)
    | published _ hp ht hr hcontent => exact hcontent ▸ hlog (hw.held _ hp _ ht _ hr)
  case handled =>
    intro d hd
    cases h.arises hd with
    | kept hold => exact hlog (hw.handled d hold)
    | received hm => exact hlog (hw.queued _ _ hm)
    | next _ hget h => exact h.message ▸ hlog (hw.handled _ (List.mem_of_getElem? hget))
    | @lost d₀ hold => exact hlog (hw.handled d₀ hold)
  case held =>
    intro p hp t ht r hr
    rcases h.held hp ht hr with ⟨q, hq, u, hu, hr⟩ | hr
    · exact hlog (hw.held q hq u hu r hr)
    · exact hlog (List.mem_map_of_mem hr)
  case planned =>
    intro d hd p hp
    cases h.arises hd with
    | kept hold => exact hw.planned d hold p hp
    | received _ => cases hp
    | next _ _ h =>
      obtain ⟨env, -, hp⟩ := h.planned hp
      rw [h.message, h.consumer]
      exact ⟨env, _, hp⟩
    | @lost d₀ hold => exact hw.planned d₀ hold p hp

end World

end SupportPlatform
