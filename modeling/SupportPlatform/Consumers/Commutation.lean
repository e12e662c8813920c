import Mathlib.Algebra.Order.Group.Multiset
import SupportPlatform.Consumers.Metrics

/-!
# The writes of the projectors commute

What the projection tables show, without the order of the rows, generated ids and timestamps. On
this the writes of the projectors are functions, and any two of them commute.
-/

namespace SupportPlatform

/-- What a notification tells its user. -/
abbrev ShownNotification := Uuid × NotificationType × String × String × Option Uuid

def Notification.shown (n : Notification) : ShownNotification :=
  (n.userId, n.type, n.title, n.message, n.ticketId)

/-- All fields of an audit row but its id and its timestamp. -/
abbrev ShownAudit :=
  RoutingKey × String × Uuid × Option Uuid × Option Uuid × Payload × Option String

def AuditLog.shown (a : AuditLog) : ShownAudit :=
  (a.action, a.entityType, a.entityId, a.actorId, a.organizationId, a.metadata, a.correlationId)

/-- What the projections show. -/
@[ext] structure Shown where
  notifications : Multiset ShownNotification
  auditLogs : Multiset ShownAudit
  metrics : Uuid × Nat → Option TicketMetricDaily

/-- What the projections of a database show. -/
def Db.shown (db : Db) : Shown where
  notifications := db.notifications.rows.map Notification.shown
  auditLogs := db.auditLogs.rows.map AuditLog.shown
  metrics key := db.ticketMetrics.find? key

/-- The row of an upsert: the row there is, or a new one, with its counter increased. -/
def TicketMetricDaily.upsert (key : Uuid × Nat) (field : MetricField)
    (m : Option TicketMetricDaily) : TicketMetricDaily :=
  (m.getD ⟨key.1, key.2, 0, 0, 0⟩).increment field

lemma TicketMetricDaily.increment_comm (f f' : MetricField) (m : TicketMetricDaily) :
    (m.increment f).increment f' = (m.increment f').increment f := by
  cases f <;> cases f' <;> rfl

namespace Shown

/-- The write of a projector, as far as it shows. -/
def write (v : Shown) : Projection → Shown
  | .skip => v
  | .notify userIds type title message ticketId =>
    { v with
      notifications :=
        v.notifications + userIds.map fun u => (u, type, title, message, some ticketId) }
  | .audit action entityType entityId actorId organizationId correlationId metadata =>
    { v with
      auditLogs := v.auditLogs +
        {(action, entityType, entityId, actorId, organizationId, metadata, correlationId)} }
  | .count organizationId date field =>
    { v with
      metrics := Function.update v.metrics (organizationId, date)
        (some (TicketMetricDaily.upsert (organizationId, date) field
          (v.metrics (organizationId, date)))) }

/-- Two upserts commute, of the same row and of different ones. -/
lemma write_count_comm (v : Shown) (k k' : Uuid × Nat) (f f' : MetricField) :
    (v.write (.count k.1 k.2 f)).write (.count k'.1 k'.2 f') =
      (v.write (.count k'.1 k'.2 f')).write (.count k.1 k.2 f) := by
  by_cases hk : k = k'
  · subst hk
    simp only [write, Function.update_self, Function.update_idem]
    simp [TicketMetricDaily.upsert, TicketMetricDaily.increment_comm]
  · have hne : k' ≠ k := fun h => hk h.symm
    simp only [write, Function.update_of_ne hk, Function.update_of_ne hne]
    rw [Function.update_comm hk]

/-- The order of two writes makes no difference. -/
theorem write_comm (v : Shown) (p q : Projection) : (v.write p).write q = (v.write q).write p := by
  cases p with
  | skip => rfl
  | notify =>
    cases q with
    | notify => exact Shown.ext (add_right_comm _ _ _) rfl rfl
    | _ => rfl
  | audit =>
    cases q with
    | audit => exact Shown.ext rfl (add_right_comm _ _ _) rfl
    | _ => rfl
  | count o d f =>
    cases q with
    | count o' d' f' => exact write_count_comm v (o, d) (o', d') f f'
    | _ => rfl

/-- Any order of the same writes leads to the same. -/
lemma foldl_write_perm {α : Type*} {f : α → Projection} {l l' : List α} (h : l.Perm l')
    (v : Shown) :
    l.foldl (fun v x => v.write (f x)) v = l'.foldl (fun v x => v.write (f x)) v :=
  h.foldl_eq' (fun x _ y _ v => write_comm v (f x) (f y)) v

end Shown

/-- What a write in the database shows is the write on what the database shows. -/
theorem Projection.Writes.shown {env : Env} {db db' : Db} {p : Projection}
    (h : p.Writes env db db') : db'.shown = db.shown.write p := by
  cases h with
  | skip => rfl
  | none => simp [Shown.write]
  | @notify userIds type title message ticketId notifications hn _ =>
    refine Shown.ext ?_ rfl rfl
    have hshown : (newNotifications env userIds type title message ticketId).map
        Notification.shown = userIds.map fun u => (u, type, title, message, some ticketId) := by
      refine List.ext_getElem? fun i => ?_
      simp only [newNotifications, List.getElem?_map, List.getElem?_mapIdx, Option.map_map]
      rfl
    simp only [Db.shown, Shown.write, (Table.insertAll?_eq_some hn).1, List.map_append, hshown]
    exact (Multiset.coe_add _ _).symm
  | audit ha =>
    refine Shown.ext rfl ?_ rfl
    simp only [Db.shown, Shown.write, (Table.insert?_eq_some.mp ha).2.1, List.map_append]
    exact (Multiset.coe_add _ _).symm
  | @increment o d field m hm =>
    refine Shown.ext rfl rfl (funext fun k => ?_)
    simp only [Db.shown, Shown.write, Table.find?_modify, Function.update_apply]
    split
    · next hk =>
      subst hk
      simp [hm, TicketMetricDaily.upsert]
    · rfl
  | @start o d field ticketMetrics hm =>
    refine Shown.ext rfl rfl (funext fun k => ?_)
    simp only [Db.shown, Shown.write, Function.update_apply]
    have hkey : Keyed.key (newMetric o d field) = (o, d) := TicketMetricDaily.key_increment field _
    split
    · next hk =>
      subst hk
      have hnone : db.ticketMetrics.find? (o, d) = Option.none := by
        rw [Table.find?_eq_none]
        intro r hr heq
        exact (Table.insert?_eq_some.mp hm).1 (hkey.trans heq.symm ▸ Table.key_mem_keys hr)
      rw [← hkey, Table.find?_insert?_self hm, hkey, hnone]
      rfl
    · next hk => exact Table.find?_insert?_of_ne hm (hkey ▸ hk)

end SupportPlatform
