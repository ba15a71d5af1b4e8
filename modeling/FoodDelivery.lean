import FoodDelivery.Lib.Except
import FoodDelivery.Lib.Table
import FoodDelivery.Lib.UniqueIndex
import FoodDelivery.Lib.History
import FoodDelivery.Lib.Timeline
import FoodDelivery.Lib.KeyedLog
import FoodDelivery.Lib.AuditTrail
import FoodDelivery.Lib.Keyspace
import FoodDelivery.Lib.Delimited
import FoodDelivery.Lib.Hexadecimal
import FoodDelivery.Lib.Percent
import FoodDelivery.Lib.Program
import FoodDelivery.Lib.Related
import FoodDelivery.Lib.Owned
import FoodDelivery.Lib.ReadCommitted
import FoodDelivery.Lib.Redelivery
import FoodDelivery.Lib.RangePartitioned
import FoodDelivery.Lib.JsonText
import FoodDelivery.Messaging.Envelope
import FoodDelivery.Messaging.Consumer
import FoodDelivery.Messaging.Relay
import FoodDelivery.Messaging.RelayRun
import FoodDelivery.Messaging.Wire
import FoodDelivery.Tenancy.Identity
import FoodDelivery.Tenancy.Propagation
import FoodDelivery.Gateway.HttpForwarder
import FoodDelivery.Order.Domain
import FoodDelivery.Order.Commands
import FoodDelivery.Order.Store
import FoodDelivery.Order.Handlers
import FoodDelivery.Order.Transactions
import FoodDelivery.Order.Agreement
import FoodDelivery.Order.Announcement
import FoodDelivery.Order.Reaper
import FoodDelivery.Order.Placing
import FoodDelivery.Order.Progress
import FoodDelivery.Order.Requests
import FoodDelivery.Order.Confirmed
import FoodDelivery.Order.Tenants
import FoodDelivery.Inventory.Domain
import FoodDelivery.Inventory.Store
import FoodDelivery.Inventory.Handlers
import FoodDelivery.Inventory.Effects
import FoodDelivery.Inventory.HeldItems
import FoodDelivery.Inventory.Redelivery
import FoodDelivery.Inventory.Books
import FoodDelivery.Inventory.Conservation
import FoodDelivery.Inventory.Transactions
import FoodDelivery.Inventory.Reached
import FoodDelivery.Inventory.Calls
import FoodDelivery.Inventory.OneRequest
import FoodDelivery.Inventory.Tenants
import FoodDelivery.Tenancy.Isolation
import FoodDelivery.Locking.RedisLock
import FoodDelivery.Payment.Workflow
import FoodDelivery.Payment.Gateway
import FoodDelivery.Payment.Verdict
import FoodDelivery.Notification.Delivery
import FoodDelivery.Notification.Reported
import FoodDelivery.Config.Store
import FoodDelivery.Config.ReadBack
import FoodDelivery.Settings.Cache
import FoodDelivery.Settings.Client
import FoodDelivery.Settings.Address
import FoodDelivery.Settings.Remote
import FoodDelivery.Saga.Stock
import FoodDelivery.Saga.StockLeak
import FoodDelivery.Saga.StockKept
import FoodDelivery.Saga.Settlement
import FoodDelivery.Saga.Charge
import FoodDelivery.Saga.ChargeOrder
import FoodDelivery.Saga.ChargePayment
import FoodDelivery.Saga.ChargeConsistency
import FoodDelivery.Catalog.ReadModel
import FoodDelivery.Catalog.RestaurantCache
import FoodDelivery.Catalog.Commands
import FoodDelivery.Catalog.Convergence
import FoodDelivery.Catalog.Steps
import FoodDelivery.Catalog.Patch
import FoodDelivery.Catalog.Audit
import FoodDelivery.Catalog.Trails
import FoodDelivery.Search.RestaurantIndex
import FoodDelivery.Search.Indexing
import FoodDelivery.Review.SubmitReview
import FoodDelivery.Review.RoundedAverage
import FoodDelivery.Review.Ratings
import FoodDelivery.Delivery.Assignment
import FoodDelivery.Delivery.Presence
import FoodDelivery.Delivery.Realtime
import FoodDelivery.Delivery.LocationRate
import FoodDelivery.Delivery.Online
import FoodDelivery.Delivery.OrderEvents
import FoodDelivery.Order.Partitions
import FoodDelivery.Messaging.Pipeline
import FoodDelivery.Media.Uploads
import FoodDelivery.Media.Steps
import FoodDelivery.Media.Forward
import FoodDelivery.Media.Served
import FoodDelivery.Persistence.AdvisoryLock
import FoodDelivery.Locking.WithLocks
import FoodDelivery.Inventory.AllOrNothing
import FoodDelivery.Lib.Base64
import FoodDelivery.Messaging.DeadLetter
import FoodDelivery.Messaging.DeadLetterPublish
import FoodDelivery.Messaging.RelayLoop
import FoodDelivery.Lib.Binary64
import FoodDelivery.Lib.Numeric
import FoodDelivery.Order.Pricing
import FoodDelivery.Auth.Keycloak
import FoodDelivery.Auth.ProvisionUser
import FoodDelivery.Lib.IsoTime
import FoodDelivery.Lib.Months
import FoodDelivery.Catalog.Snapshots
import FoodDelivery.Gateway.UpstreamUrl
import FoodDelivery.Gateway.Forwarding
import FoodDelivery.Lib.Numeral
import FoodDelivery.Tenancy.Signatures
import FoodDelivery.Payment.Webhook
import FoodDelivery.Gateway.RateLimit
import FoodDelivery.Lib.Replacing
import FoodDelivery.Analytics.OrdersFact
import FoodDelivery.Analytics.Revenue
import FoodDelivery.Review.Eligibility
import FoodDelivery.Gateway.Authorization
import FoodDelivery.Saga.Books
import FoodDelivery.Saga.Dispatch
