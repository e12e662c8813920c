import SupportPlatform.Consumers.Projections

/-!
# Counters of the daily metrics

The rows of `ticket_metrics_daily` as counters, one for each organization, day and field. An upsert
adds one to its counter and leaves the others, whether it inserts the row or updates it.
-/

namespace SupportPlatform

/-- The organization and the counter that an event of this payload moves, if it moves one. -/
def Payload.metric? : Payload → Option (Uuid × MetricField)
  | .ticketCreated p => some (p.organizationId, .ticketsCreated)
  | .ticketAssigned p => some (p.organizationId, .ticketsAssigned)
  | .ticketClosed p => some (p.organizationId, .ticketsClosed)
  | _ => none

lemma AnalyticsConsumer.plan_eq (env : Env) (event : DomainEvent) :
    plan env event = match event.payload.metric? with
      | some (organizationId, field) => .count organizationId (startOfUtcDay env.now) field
      | none => .skip := by
  unfold plan Payload.metric?
  cases event.payload <;> rfl

/-- The analytics consumer subscribes to the events that move a counter. -/
lemma Consumer.bound_analytics {p : Payload} (h : p.metric?.isSome) :
    Consumer.analytics.bound p.routingKey := by
  cases p with
  | ticketCreated | ticketAssigned | ticketClosed => rfl
  | ticketUpdated | commentCreated | notificationCreated => cases h

/-- One counter of a row. -/
def TicketMetricDaily.counter (field : MetricField) (m : TicketMetricDaily) : Nat :=
  match field with
  | .ticketsCreated => m.ticketsCreated
  | .ticketsAssigned => m.ticketsAssigned
  | .ticketsClosed => m.ticketsClosed

lemma TicketMetricDaily.counter_increment (field field' : MetricField) (m : TicketMetricDaily) :
    (m.increment field').counter field = m.counter field + if field = field' then 1 else 0 := by
  cases field <;> cases field' <;> rfl

namespace Db

/-- The counter of an organization, a day and a field, zero where there is no row. -/
def metric (db : Db) (organizationId : Uuid) (date : Nat) (field : MetricField) : Nat :=
  (db.ticketMetrics.column (TicketMetricDaily.counter field) (organizationId, date)).getD 0

variable {db db' : Db} {organizationId o : Uuid} {date d : Nat} {field f : MetricField}

lemma metric_increment {m : TicketMetricDaily}
    (h : db.ticketMetrics.find? (organizationId, date) = some m) :
    ({ db with
        ticketMetrics := db.ticketMetrics.modify (organizationId, date)
          (TicketMetricDaily.increment field) (TicketMetricDaily.key_increment field) } : Db).metric
        o d f = db.metric o d f + if (o, d, f) = (organizationId, date, field) then 1 else 0 := by
  simp only [metric, Table.column, Table.find?_modify]
  by_cases hkey : (o, d) = (organizationId, date)
  · obtain ⟨rfl, rfl⟩ := Prod.mk.inj hkey
    simp [h, TicketMetricDaily.counter_increment]
  · have hne : ¬ (o, d, f) = (organizationId, date, field) := by
      rintro ⟨⟩
      exact hkey rfl
    simp [hkey, hne]

lemma metric_start {ticketMetrics : Table TicketMetricDaily}
    (h : db.ticketMetrics.insert? (newMetric organizationId date field) = some ticketMetrics) :
    ({ db with ticketMetrics } : Db).metric o d f =
      db.metric o d f + if (o, d, f) = (organizationId, date, field) then 1 else 0 := by
  have hnew : Keyed.key (newMetric organizationId date field) = (organizationId, date) :=
    TicketMetricDaily.key_increment field _
  simp only [metric]
  by_cases hkey : (o, d) = (organizationId, date)
  · obtain ⟨rfl, rfl⟩ := Prod.mk.inj hkey
    have hnone : db.ticketMetrics.column (TicketMetricDaily.counter f) (o, d) = none := by
      rw [Table.column_eq_none]
      intro r hr heq
      exact (Table.insert?_eq_some.mp h).1 (hnew.trans heq.symm ▸ Table.key_mem_keys hr)
    have hsome := Table.column_self (g := TicketMetricDaily.counter f)
      ((Table.mem_insert? h).mpr (.inr rfl))
    rw [hnew] at hsome
    have hzero : TicketMetricDaily.counter f ⟨o, d, 0, 0, 0⟩ = 0 := by cases f <;> rfl
    simp [hnone, hsome, newMetric, TicketMetricDaily.counter_increment, hzero]
  · have hne : ¬ (o, d, f) = (organizationId, date, field) := by
      rintro ⟨⟩
      exact hkey rfl
    rw [Table.column_insert? h (hnew ▸ hkey), if_neg hne, Nat.add_zero]

/-- The write of an upsert adds one to its counter. -/
lemma metric_of_writes {env : Env}
    (h : (Projection.count organizationId date field).Writes env db db') :
    db'.metric o d f =
      db.metric o d f + if (o, d, f) = (organizationId, date, field) then 1 else 0 := by
  cases h with
  | increment h => exact metric_increment h
  | start h => exact metric_start h

end Db

end SupportPlatform
