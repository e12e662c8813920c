import SupportPlatform.Services.Tickets

/-!
# CommentsService

`create` checks the access to the ticket with `TicketsService.findOne` and then runs one
interactive transaction.
-/

namespace SupportPlatform.CommentsService

open EventPublisherService

/-- Only staff may post internal notes. -/
def isInternal (actor : AuthenticatedUser) (dto : CreateCommentDto) : Bool :=
  if actor.role = .customer then false else dto.isInternal.getD false

/-- The row `create` inserts. -/
def newComment (env : Env) (actor : AuthenticatedUser) (ticketId : Uuid) (dto : CreateCommentDto) :
    Comment where
  id := env.uuid .write 0
  ticketId
  authorId := actor.id
  body := dto.body
  isInternal := isInternal actor dto
  createdAt := env.now

/-- The transaction of `create`. -/
def createTransaction (actor : AuthenticatedUser) (ticketId : Uuid) (dto : CreateCommentDto)
    (correlationId : Option String) : DbTx Comment :=
  interactive do
    let env ← Transaction.ask
    let comment ← createComment (newComment env actor ticketId dto)
    enqueue .commentCreated
      (.commentCreated
        { commentId := comment.id
          ticketId
          organizationId := actor.organizationId
          authorId := actor.id
          isInternal := isInternal actor dto })
      correlationId
    return comment

end SupportPlatform.CommentsService
