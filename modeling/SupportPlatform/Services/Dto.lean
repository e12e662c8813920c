import SupportPlatform.Schema.Basic

/-!
# Request bodies

The DTOs the controllers hand to the services, after the validation pipe.
-/

namespace SupportPlatform

structure CreateTicketDto where
  title : String
  description : String
  priority : Field TicketPriority
  category : Field String
deriving DecidableEq, Repr

structure UpdateTicketDto where
  title : Field String
  description : Field String
  status : Field TicketStatus
  priority : Field TicketPriority
  category : Field String
deriving DecidableEq, Repr

structure AssignTicketDto where
  assigneeId : Uuid
deriving DecidableEq, Repr

structure CreateCommentDto where
  body : String
  isInternal : Field Bool
deriving DecidableEq, Repr

structure CreateUserDto where
  email : String
  password : String
  firstName : String
  lastName : String
  role : Role
  organizationId : Uuid
deriving DecidableEq, Repr

/-- `PartialType(OmitType(CreateUserDto, ['password', 'organizationId']))` with `isActive`. -/
structure UpdateUserDto where
  email : Field String
  firstName : Field String
  lastName : Field String
  role : Field Role
  isActive : Field Bool
deriving DecidableEq, Repr

structure RegisterDto where
  email : String
  password : String
  firstName : String
  lastName : String
  organizationId : Uuid
deriving DecidableEq, Repr

structure LoginDto where
  email : String
  password : String
deriving DecidableEq, Repr

structure CreateOrganizationDto where
  name : String
  slug : String
deriving DecidableEq, Repr

structure UpdateOrganizationDto where
  name : Field String
  slug : Field String
  isActive : Field Bool
deriving DecidableEq, Repr

end SupportPlatform
