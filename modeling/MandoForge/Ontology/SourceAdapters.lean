/-
Module: MandoForge.Ontology.SourceAdapters
Purpose: The adapters of the business platforms, each a fixed template of tables,
  relations, metrics and actions, and the dispatch over all sources.
Trusted boundary: as for the file adapters
Main exports: PlatformTemplate, overlayExportCsv
-/
import MandoForge.Ontology.FileAdapters

namespace MandoForge

open Foundation

/-! ### Templates -/

/-- The name and the type of a field. -/
abbrev FieldSpec := String × String

/-- The name and the fields of a table. -/
abbrev TableSpec := String × List FieldSpec

structure PlatformTemplate where
  industry : String
  domainScope : String
  sourceMode : String
  toolNamespace : String
  adapterType : String
  defaultLabel : String
  relations : List OntologySeedRelationMapping
  metrics : List OntologySeedMetricMapping
  actions : List OntologySeedActionMapping

/-- What every platform without files can be asked for: some of its parts. -/
structure SchemaAdapterInput (Part : Type) where
  parts : Option (List Part)
  instanceLabel : Option String

/-- What every shop can be asked for: some of its tables, and an export of the orders. -/
structure CommerceAdapterInput (Table : Type) where
  exportFile : Option RawFilePayload
  tables : Option (List Table)
  instanceLabel : Option String

def rel (name fromObject relation toObject sourceTable sourceField referenceTable : String) :
    OntologySeedRelationMapping :=
  { name, fromObject, relation, toObject, sourceTable, sourceField, referenceTable }

def metric (name targetObject expression : String) : OntologySeedMetricMapping :=
  { name, targetObject, expression, evidence := .object [] }

def action (name targetObject : String) (approvalRequired : Bool) (inputs reads : Json) :
    OntologySeedActionMapping where
  name := name
  targetObject := targetObject
  approvalRequired := approvalRequired
  inputs := inputs
  reads := reads
  effects := .object []
  executor := .ofFields [("type", .string "api_call")]
  transactionProfile := .proposalOnly

def buildSchemaOnlyDataset (sourceSystem : String) (table : TableSpec) :
    OntologyOnboardingDataset where
  tableName := table.1
  sourceSystem := sourceSystem
  sourceObject := table.1
  fields := table.2.map fun (name, fieldType) => { name, fieldType, sampleValues := [] }
  rows := []

section adapters

variable (characters : CharacterTables) (decoders : SourceDecoders)

def buildPlatformOutput (template : PlatformTemplate) (instanceLabel : Option String)
    (tables : List TableSpec) : OntologySourceAdapterOutput :=
  let label := instanceLabel.getD template.defaultLabel
  { bundle := {
      industry := template.industry
      sourceMode := template.sourceMode
      toolNamespace := template.toolNamespace
      datasets := tables.map (buildSchemaOnlyDataset label) }
    seed := {
      industry := template.industry
      domainScope := template.domainScope
      sourceMode := template.sourceMode
      toolNamespace := template.toolNamespace
      objects := tables.map fun table => ⟨table.1, pascalCase characters table.1⟩
      relations := template.relations
      metrics := template.metrics
      actions := template.actions }
    adapterType := template.adapterType
    sourceLabel := template.adapterType ++ ":" ++ label
    schemaOnly := true
    warnings := [] }

/-- The rows and the fields of the export in the place of those of the first dataset of
that table. -/
def overlayDatasets (tableName : String) (source : OntologyOnboardingDataset)
    (datasets : List OntologyOnboardingDataset) : List OntologyOnboardingDataset :=
  datasets.modify (datasets.findIdx fun dataset => decide (dataset.tableName = tableName))
    fun target => { target with rows := source.rows, fields := source.fields }

/-- `overlay_export_csv`: an export that is missing or cannot be read changes nothing. -/
def overlayExportCsv (output : OntologySourceAdapterOutput) (exportFile : Option RawFilePayload)
    (bytes : Option SourceBytes) (tableName sourceSystem : String) :
    OntologySourceAdapterOutput :=
  let exported := do
    let file ← exportFile
    let raw ← (bytesOrInline decoders bytes file).toOption
    (adaptCsv characters decoders {
      file
      delimiter := none
      sampleRowCount := some 20
      tableNameOverride := some tableName
      sourceSystemOverride := some sourceSystem } raw).toOption
  match exported with
  | none => output
  | some csvOutput =>
      match csvOutput.bundle.datasets.head? with
      | none => output
      | some source =>
          if output.bundle.datasets.any fun dataset => decide (dataset.tableName = tableName) then
            { output with
              bundle := { output.bundle with
                datasets := overlayDatasets tableName source output.bundle.datasets }
              schemaOnly := false }
          else output

/-- The body of the adapter of a shop; the export holds the rows of its primary table. -/
def adaptCommerce {Table : Type} (template : PlatformTemplate) (allTables : List Table)
    (tableFor : Table → TableSpec) (primaryTable : String) (input : CommerceAdapterInput Table)
    (bytes : Option SourceBytes) : OntologySourceAdapterOutput :=
  overlayExportCsv characters decoders
    (buildPlatformOutput characters template input.instanceLabel
      ((input.tables.getD allTables).map tableFor))
    input.exportFile bytes primaryTable (input.instanceLabel.getD template.defaultLabel)

/-! ### Salesforce -/

inductive SalesforceObject where
  | account
  | contact
  | lead
  | opportunity
  | «case»
  | product2
  | pricebook2Entry
  | order
deriving DecidableEq, Repr

def sfAccount : List FieldSpec := [
  ("id", "string"), ("name", "string"), ("type", "string"), ("industry", "string"),
  ("annual_revenue", "decimal"), ("billing_country", "string"), ("created_date", "timestamp"),
  ("owner_id", "string")]

def sfContact : List FieldSpec := [
  ("id", "string"), ("account_id", "string"), ("first_name", "string"), ("last_name", "string"),
  ("email", "string"), ("phone", "string"), ("title", "string"), ("lead_source", "string"),
  ("created_date", "timestamp")]

def sfLead : List FieldSpec := [
  ("id", "string"), ("first_name", "string"), ("last_name", "string"), ("email", "string"),
  ("company", "string"), ("status", "string"), ("lead_source", "string"),
  ("annual_revenue", "decimal"), ("created_date", "timestamp")]

def sfOpportunity : List FieldSpec := [
  ("id", "string"), ("account_id", "string"), ("name", "string"), ("stage_name", "string"),
  ("amount", "decimal"), ("close_date", "date"), ("probability", "decimal"), ("type", "string"),
  ("created_date", "timestamp")]

def sfCase : List FieldSpec := [
  ("id", "string"), ("account_id", "string"), ("contact_id", "string"), ("subject", "string"),
  ("status", "string"), ("priority", "string"), ("origin", "string"), ("created_date", "timestamp"),
  ("closed_date", "timestamp")]

def sfProduct2 : List FieldSpec := [
  ("id", "string"), ("name", "string"), ("product_code", "string"), ("description", "string"),
  ("is_active", "boolean"), ("family", "string"), ("created_date", "timestamp")]

def sfPricebook2entry : List FieldSpec := [
  ("id", "string"), ("pricebook2_id", "string"), ("product2_id", "string"),
  ("unit_price", "decimal"), ("is_active", "boolean"), ("currency_iso_code", "string")]

def sfOrder : List FieldSpec := [
  ("id", "string"), ("account_id", "string"), ("order_number", "string"), ("status", "string"),
  ("total_amount", "decimal"), ("effective_date", "date"), ("created_date", "timestamp")]

def sfTableFor : SalesforceObject → TableSpec
  | .account => ("account", sfAccount)
  | .contact => ("contact", sfContact)
  | .lead => ("lead", sfLead)
  | .opportunity => ("opportunity", sfOpportunity)
  | .«case» => ("case", sfCase)
  | .product2 => ("product2", sfProduct2)
  | .pricebook2Entry => ("pricebook2entry", sfPricebook2entry)
  | .order => ("order", sfOrder)

def allSalesforceObjects : List SalesforceObject := [
  .account, .contact, .lead, .opportunity, .«case», .product2, .pricebook2Entry, .order]

def salesforceTemplate : PlatformTemplate where
  industry := "crm"
  domainScope := "salesforce"
  sourceMode := "salesforce_export"
  toolNamespace := "crm"
  adapterType := "salesforce"
  defaultLabel := "salesforce"
  relations := [
    rel "ContactBelongsToAccount" "Contact" "belongs_to" "Account" "contact" "account_id" "account",
    rel "OpportunityBelongsToAccount" "Opportunity" "belongs_to" "Account" "opportunity"
      "account_id" "account",
    rel "CaseBelongsToAccount" "Case" "belongs_to" "Account" "case" "account_id" "account",
    rel "CaseBelongsToContact" "Case" "belongs_to" "Contact" "case" "contact_id" "contact",
    rel "OrderBelongsToAccount" "Order" "belongs_to" "Account" "order" "account_id" "account",
    rel "Pricebook2EntryHasProduct" "Pricebook2Entry" "references" "Product2" "pricebook2entry"
      "product2_id" "product2"]
  metrics := [
    metric "total_pipeline_value" "Opportunity"
      "SUM(amount) WHERE stage_name NOT IN ('Closed Lost','Closed Won')",
    metric "win_rate" "Opportunity" "COUNT(*) FILTER(stage_name='Closed Won') / COUNT(*) * 100",
    metric "avg_deal_size" "Opportunity" "AVG(amount) WHERE stage_name='Closed Won'",
    metric "open_case_count" "Case" "COUNT(*) WHERE status NOT IN ('Closed')",
    metric "annual_revenue_total" "Account" "SUM(annual_revenue)"]
  actions := [
    action "convert_lead" "Lead" true
      (.ofFields [("status", .string "string"), ("account_name", .string "string")])
      (.ofFields [("reads", .ofStrings ["Lead", "Account"])]),
    action "close_opportunity" "Opportunity" true
      (.ofFields [("stage_name", .string "string"), ("close_date", .string "date")])
      (.ofFields [("reads", .ofStrings ["Opportunity"])]),
    action "escalate_case" "Case" false
      (.ofFields [("priority", .string "string"), ("owner_id", .string "string")])
      (.ofFields [("reads", .ofStrings ["Case"])])]

abbrev SalesforceAdapterInput := SchemaAdapterInput SalesforceObject

def adaptSalesforce (input : SalesforceAdapterInput) : OntologySourceAdapterOutput :=
  buildPlatformOutput characters salesforceTemplate input.instanceLabel
    ((input.parts.getD allSalesforceObjects).map sfTableFor)

/-! ### HubSpot -/

inductive HubspotObject where
  | contacts
  | companies
  | deals
  | tickets
  | lineItems
deriving DecidableEq, Repr

def hsContacts : List FieldSpec := [
  ("vid", "string"), ("email", "string"), ("firstname", "string"), ("lastname", "string"),
  ("phone", "string"), ("company", "string"), ("lifecyclestage", "string"),
  ("hs_lead_status", "string"), ("createdate", "timestamp"), ("lastmodifieddate", "timestamp")]

def hsCompanies : List FieldSpec := [
  ("company_id", "string"), ("name", "string"), ("domain", "string"), ("industry", "string"),
  ("city", "string"), ("country", "string"), ("annualrevenue", "decimal"),
  ("numberofemployees", "integer")]

def hsDeals : List FieldSpec := [
  ("deal_id", "string"), ("dealname", "string"), ("dealstage", "string"), ("amount", "decimal"),
  ("closedate", "date"), ("pipeline", "string"), ("associated_company_id", "string"),
  ("owner_id", "string")]

def hsTickets : List FieldSpec := [
  ("ticket_id", "string"), ("subject", "string"), ("content", "string"), ("status", "string"),
  ("priority", "string"), ("category", "string"), ("associated_contact_id", "string"),
  ("createdate", "timestamp")]

def hsLineItems : List FieldSpec := [
  ("line_item_id", "string"), ("deal_id", "string"), ("product_id", "string"), ("name", "string"),
  ("quantity", "decimal"), ("price", "decimal"), ("amount", "decimal"), ("discount", "decimal")]

def hsTableFor : HubspotObject → TableSpec
  | .contacts => ("contacts", hsContacts)
  | .companies => ("companies", hsCompanies)
  | .deals => ("deals", hsDeals)
  | .tickets => ("tickets", hsTickets)
  | .lineItems => ("line_items", hsLineItems)

def allHubspotObjects : List HubspotObject := [.contacts, .companies, .deals, .tickets, .lineItems]

def hubspotTemplate : PlatformTemplate where
  industry := "crm"
  domainScope := "hubspot"
  sourceMode := "hubspot_export"
  toolNamespace := "crm"
  adapterType := "hubspot"
  defaultLabel := "hubspot"
  relations := [
    rel "ContactBelongsToCompany" "Contact" "belongs_to" "Company" "contacts" "company" "companies",
    rel "DealBelongsToCompany" "Deal" "belongs_to" "Company" "deals" "associated_company_id"
      "companies",
    rel "TicketBelongsToContact" "Ticket" "belongs_to" "Contact" "tickets" "associated_contact_id"
      "contacts",
    rel "LineItemBelongsToDeal" "LineItem" "belongs_to" "Deal" "line_items" "deal_id" "deals"]
  metrics := [
    metric "total_pipeline_value" "Deal" "SUM(amount) WHERE dealstage NOT LIKE '%closed%'",
    metric "mrr" "Deal" "SUM(amount) / 12 WHERE dealstage='closedwon'",
    metric "open_ticket_count" "Ticket" "COUNT(*) WHERE status NOT IN ('closed')"]
  actions := [
    action "close_deal" "Deal" true
      (.ofFields [("dealstage", .string "string"), ("closedate", .string "date")])
      (.ofFields [("reads", .ofStrings ["Deal", "Contact"])]),
    action "merge_contacts" "Contact" true
      (.ofFields [("primary_vid", .string "string"), ("secondary_vid", .string "string")])
      (.ofFields [("reads", .ofStrings ["Contact"])])]

abbrev HubspotAdapterInput := SchemaAdapterInput HubspotObject

def adaptHubspot (input : HubspotAdapterInput) : OntologySourceAdapterOutput :=
  buildPlatformOutput characters hubspotTemplate input.instanceLabel
    ((input.parts.getD allHubspotObjects).map hsTableFor)

/-! ### SAP S/4HANA -/

inductive SapModule where
  | finance
  | sales
  | materials
deriving DecidableEq, Repr

def sapBkpf : List FieldSpec := [
  ("mandt", "string"), ("bukrs", "string"), ("belnr", "string"), ("gjahr", "string"),
  ("blart", "string"), ("bldat", "date"), ("budat", "date"), ("monat", "string"),
  ("waers", "string"), ("usnam", "string")]

def sapBseg : List FieldSpec := [
  ("mandt", "string"), ("bukrs", "string"), ("belnr", "string"), ("gjahr", "string"),
  ("buzei", "string"), ("koart", "string"), ("hkont", "string"), ("dmbtr", "decimal"),
  ("wrbtr", "decimal"), ("kostl", "string")]

def sapVbak : List FieldSpec := [
  ("mandt", "string"), ("vbeln", "string"), ("erdat", "date"), ("auart", "string"),
  ("kunnr", "string"), ("netwr", "decimal"), ("waerk", "string"), ("vkorg", "string"),
  ("vtweg", "string"), ("spart", "string")]

def sapVbap : List FieldSpec := [
  ("mandt", "string"), ("vbeln", "string"), ("posnr", "string"), ("matnr", "string"),
  ("arktx", "string"), ("kwmeng", "decimal"), ("vrkme", "string"), ("netpr", "decimal"),
  ("waerk", "string"), ("werks", "string")]

def sapMara : List FieldSpec := [
  ("mandt", "string"), ("matnr", "string"), ("ersda", "date"), ("ernam", "string"),
  ("mtart", "string"), ("matkl", "string"), ("meins", "string"), ("brgew", "decimal"),
  ("ntgew", "decimal"), ("gewei", "string")]

/-- The tables of a module. -/
def sapTablesFor : SapModule → List TableSpec
  | .finance => [("bkpf", sapBkpf), ("bseg", sapBseg)]
  | .sales => [("vbak", sapVbak), ("vbap", sapVbap)]
  | .materials => [("mara", sapMara)]

def allSapModules : List SapModule := [.finance, .sales, .materials]

def sapS4HanaTemplate : PlatformTemplate where
  industry := "erp"
  domainScope := "sap_s4hana"
  sourceMode := "sap_s4hana_export"
  toolNamespace := "erp"
  adapterType := "sap_s4hana"
  defaultLabel := "sap_s4hana"
  relations := [
    rel "BsegBelongsToBkpf" "Bseg" "belongs_to" "Bkpf" "bseg" "belnr" "bkpf",
    rel "VbapBelongsToVbak" "Vbap" "belongs_to" "Vbak" "vbap" "vbeln" "vbak"]
  metrics := [
    metric "total_revenue" "Vbak" "SUM(netwr)",
    metric "material_gross_weight" "Mara" "SUM(brgew)"]
  actions := [
    action "block_sales_order" "Vbak" true
      (.ofFields [("vbeln", .string "string"), ("reason", .string "string")])
      (.ofFields [("reads", .ofStrings ["Vbak"])]),
    action "change_material_status" "Mara" true
      (.ofFields [("matnr", .string "string"), ("new_status", .string "string")])
      (.ofFields [("reads", .ofStrings ["Mara"])])]

abbrev SapS4HanaAdapterInput := SchemaAdapterInput SapModule

def adaptSapS4Hana (input : SapS4HanaAdapterInput) : OntologySourceAdapterOutput :=
  buildPlatformOutput characters sapS4HanaTemplate input.instanceLabel
    ((input.parts.getD allSapModules).flatMap sapTablesFor)

/-! ### Oracle NetSuite -/

inductive NetsuiteObject where
  | customer
  | salesOrder
  | item
  | invoice
  | vendor
deriving DecidableEq, Repr

def nsCustomer : List FieldSpec := [
  ("id", "string"), ("entity_id", "string"), ("company_name", "string"), ("email", "string"),
  ("phone", "string"), ("currency", "string"), ("terms", "string"), ("date_created", "timestamp")]

def nsSalesorder : List FieldSpec := [
  ("id", "string"), ("tran_id", "string"), ("entity_id", "string"), ("tran_date", "date"),
  ("status", "string"), ("amount", "decimal"), ("subsidiary", "string"), ("currency", "string")]

def nsItem : List FieldSpec := [
  ("id", "string"), ("item_id", "string"), ("display_name", "string"), ("type", "string"),
  ("base_price", "decimal"), ("purchase_price", "decimal"), ("is_inactive", "boolean")]

def nsInvoice : List FieldSpec := [
  ("id", "string"), ("tran_id", "string"), ("entity_id", "string"), ("tran_date", "date"),
  ("due_date", "date"), ("status", "string"), ("amount_remaining", "decimal"), ("total", "decimal")]

def nsVendor : List FieldSpec := [
  ("id", "string"), ("entity_id", "string"), ("company_name", "string"), ("email", "string"),
  ("currency", "string"), ("terms", "string"), ("is_inactive", "boolean")]

def nsTableFor : NetsuiteObject → TableSpec
  | .customer => ("customer", nsCustomer)
  | .salesOrder => ("sales_order", nsSalesorder)
  | .item => ("item", nsItem)
  | .invoice => ("invoice", nsInvoice)
  | .vendor => ("vendor", nsVendor)

def allNetsuiteObjects : List NetsuiteObject := [.customer, .salesOrder, .item, .invoice, .vendor]

def oracleNetsuiteTemplate : PlatformTemplate where
  industry := "erp"
  domainScope := "netsuite"
  sourceMode := "netsuite_export"
  toolNamespace := "erp"
  adapterType := "oracle_netsuite"
  defaultLabel := "netsuite"
  relations := [
    rel "SalesOrderBelongsToCustomer" "SalesOrder" "belongs_to" "Customer" "sales_order"
      "entity_id" "customer",
    rel "InvoiceBelongsToCustomer" "Invoice" "belongs_to" "Customer" "invoice" "entity_id"
      "customer"]
  metrics := [
    metric "outstanding_ar" "Invoice" "SUM(amount_remaining) WHERE status='open'",
    metric "total_sales" "SalesOrder" "SUM(amount)"]
  actions := [
    action "apply_payment" "Invoice" true
      (.ofFields [("invoice_id", .string "string"), ("amount", .string "decimal")])
      (.ofFields [("reads", .ofStrings ["Invoice", "Customer"])])]

abbrev OracleNetsuiteAdapterInput := SchemaAdapterInput NetsuiteObject

def adaptOracleNetsuite (input : OracleNetsuiteAdapterInput) : OntologySourceAdapterOutput :=
  buildPlatformOutput characters oracleNetsuiteTemplate input.instanceLabel
    ((input.parts.getD allNetsuiteObjects).map nsTableFor)

/-! ### Shopify -/

inductive ShopifyTable where
  | orders
  | customers
  | products
  | variants
  | fulfillments
  | refunds
deriving DecidableEq, Repr

def shopifyOrders : List FieldSpec := [
  ("id", "string"), ("email", "string"), ("financial_status", "string"),
  ("fulfillment_status", "string"), ("total_price", "decimal"), ("subtotal_price", "decimal"),
  ("total_tax", "decimal"), ("currency", "string"), ("created_at", "timestamp"),
  ("customer_id", "string"), ("shipping_country", "string"), ("tags", "string")]

def shopifyCustomers : List FieldSpec := [
  ("id", "string"), ("email", "string"), ("first_name", "string"), ("last_name", "string"),
  ("phone", "string"), ("orders_count", "integer"), ("total_spent", "decimal"),
  ("accepts_marketing", "boolean"), ("created_at", "timestamp")]

def shopifyProducts : List FieldSpec := [
  ("id", "string"), ("title", "string"), ("vendor", "string"), ("product_type", "string"),
  ("status", "string"), ("tags", "string"), ("created_at", "timestamp")]

def shopifyVariants : List FieldSpec := [
  ("id", "string"), ("product_id", "string"), ("sku", "string"), ("price", "decimal"),
  ("compare_at_price", "decimal"), ("inventory_quantity", "integer"), ("weight", "decimal"),
  ("option1", "string"), ("option2", "string")]

def shopifyFulfillments : List FieldSpec := [
  ("id", "string"), ("order_id", "string"), ("status", "string"), ("tracking_company", "string"),
  ("tracking_number", "string"), ("created_at", "timestamp")]

def shopifyRefunds : List FieldSpec := [
  ("id", "string"), ("order_id", "string"), ("created_at", "timestamp"), ("note", "string"),
  ("restock", "boolean")]

def shopifyTableFor : ShopifyTable → TableSpec
  | .orders => ("orders", shopifyOrders)
  | .customers => ("customers", shopifyCustomers)
  | .products => ("products", shopifyProducts)
  | .variants => ("variants", shopifyVariants)
  | .fulfillments => ("fulfillments", shopifyFulfillments)
  | .refunds => ("refunds", shopifyRefunds)

def allShopifyTables : List ShopifyTable := [
  .orders, .customers, .products, .variants, .fulfillments, .refunds]

def shopifyTemplate : PlatformTemplate where
  industry := "ecommerce"
  domainScope := "shopify"
  sourceMode := "shopify_export"
  toolNamespace := "commerce"
  adapterType := "shopify"
  defaultLabel := "shopify"
  relations := [
    rel "CustomerPlacesOrder" "Customer" "places" "Order" "orders" "customer_id" "customers",
    rel "VariantRepresentsProduct" "Variant" "represents" "Product" "variants" "product_id"
      "products",
    rel "OrderHasFulfillment" "Fulfillment" "belongs_to" "Order" "fulfillments" "order_id" "orders",
    rel "OrderHasRefund" "Refund" "belongs_to" "Order" "refunds" "order_id" "orders"]
  metrics := [
    metric "gmv" "Order" "SUM(total_price)",
    metric "aov" "Order" "AVG(total_price)",
    metric "refund_rate" "Order" "COUNT(refunds) / COUNT(orders) * 100",
    metric "ltv" "Customer" "SUM(total_spent)"]
  actions := [
    action "cancel_order" "Order" true
      (.ofFields [("order_id", .string "string"), ("reason", .string "string")])
      (.ofFields [("reads", .ofStrings ["Order"])]),
    action "process_refund" "Order" true
      (.ofFields [("order_id", .string "string"), ("amount", .string "decimal"),
        ("restock", .string "boolean")])
      (.ofFields [("reads", .ofStrings ["Order", "Variant"])]),
    action "restock_variant" "Variant" false
      (.ofFields [("variant_id", .string "string"), ("quantity", .string "integer")])
      (.ofFields [("reads", .ofStrings ["Variant", "Product"])])]

abbrev ShopifyAdapterInput := CommerceAdapterInput ShopifyTable

def adaptShopify (input : ShopifyAdapterInput) (bytes : Option SourceBytes) :
    OntologySourceAdapterOutput :=
  adaptCommerce characters decoders shopifyTemplate allShopifyTables shopifyTableFor
    "orders" input bytes

/-! ### Amazon Seller Central -/

inductive AmazonTable where
  | orders
  | orderItems
  | products
  | inventory
  | returns
deriving DecidableEq, Repr

def amzOrders : List FieldSpec := [
  ("amazon_order_id", "string"), ("purchase_date", "timestamp"), ("order_status", "string"),
  ("fulfillment_channel", "string"), ("sales_channel", "string"), ("ship_service_level", "string"),
  ("order_total", "decimal"), ("currency", "string"), ("buyer_email", "string")]

def amzOrderItems : List FieldSpec := [
  ("amazon_order_id", "string"), ("asin", "string"), ("seller_sku", "string"), ("title", "string"),
  ("quantity_ordered", "integer"), ("item_price", "decimal"), ("item_tax", "decimal"),
  ("promotion_discount", "decimal")]

def amzProducts : List FieldSpec := [
  ("asin", "string"), ("item_name", "string"), ("item_description", "string"),
  ("listing_id", "string"), ("price", "decimal"), ("status", "string"), ("open_date", "date")]

def amzInventory : List FieldSpec := [
  ("sku", "string"), ("asin", "string"), ("fnsku", "string"), ("product_name", "string"),
  ("condition", "string"), ("your_price", "decimal"), ("mfn_listing_exists", "boolean"),
  ("afn_fulfillable_quantity", "integer"), ("afn_reserved_quantity", "integer")]

def amzReturns : List FieldSpec := [
  ("order_id", "string"), ("return_date", "date"), ("sku", "string"), ("asin", "string"),
  ("title", "string"), ("quantity", "integer"), ("return_reason", "string"), ("status", "string")]

def amzTableFor : AmazonTable → TableSpec
  | .orders => ("orders", amzOrders)
  | .orderItems => ("order_items", amzOrderItems)
  | .products => ("products", amzProducts)
  | .inventory => ("inventory", amzInventory)
  | .returns => ("returns", amzReturns)

def allAmazonTables : List AmazonTable := [.orders, .orderItems, .products, .inventory, .returns]

def amazonSellerCentralTemplate : PlatformTemplate where
  industry := "ecommerce"
  domainScope := "amazon"
  sourceMode := "amazon_seller_central_export"
  toolNamespace := "commerce"
  adapterType := "amazon_seller_central"
  defaultLabel := "amazon_seller"
  relations := [
    rel "OrderItemBelongsToOrder" "OrderItem" "belongs_to" "Order" "order_items" "amazon_order_id"
      "orders",
    rel "OrderItemReferencesProduct" "OrderItem" "references" "Product" "order_items" "asin"
      "products",
    rel "InventoryTracksProduct" "Inventory" "tracks" "Product" "inventory" "asin" "products",
    rel "ReturnBelongsToOrder" "Return" "belongs_to" "Order" "returns" "order_id" "orders"]
  metrics := [
    metric "net_sales" "OrderItem" "SUM(item_price - promotion_discount)",
    metric "return_rate" "Order" "COUNT(returns) / COUNT(orders) * 100",
    metric "inventory_value" "Inventory" "SUM(your_price * afn_fulfillable_quantity)"]
  actions := [
    action "update_listing_price" "Product" false
      (.ofFields [("asin", .string "string"), ("new_price", .string "decimal")])
      (.ofFields [("reads", .ofStrings ["Product", "Inventory"])]),
    action "submit_return_disposition" "Return" true
      (.ofFields [("order_id", .string "string"), ("disposition", .string "string")])
      (.ofFields [("reads", .ofStrings ["Return"])])]

abbrev AmazonSellerCentralAdapterInput := CommerceAdapterInput AmazonTable

def adaptAmazonSellerCentral (input : AmazonSellerCentralAdapterInput)
    (bytes : Option SourceBytes) : OntologySourceAdapterOutput :=
  adaptCommerce characters decoders amazonSellerCentralTemplate allAmazonTables amzTableFor
    "orders" input bytes

/-! ### Taobao -/

inductive TaobaoTable where
  | trades
  | products
  | buyers
  | refunds
deriving DecidableEq, Repr

def tbTrades : List FieldSpec := [
  ("tid", "string"), ("buyer_nick", "string"), ("seller_nick", "string"), ("status", "string"),
  ("payment", "decimal"), ("discount_fee", "decimal"), ("post_fee", "decimal"),
  ("total_fee", "decimal"), ("num_iid", "string"), ("title", "string"), ("num", "integer"),
  ("created", "timestamp"), ("end_time", "timestamp"), ("receiver_name", "string"),
  ("receiver_province", "string"), ("receiver_city", "string")]

def tbProducts : List FieldSpec := [
  ("num_iid", "string"), ("title", "string"), ("price", "decimal"), ("num", "integer"),
  ("cid", "string"), ("seller_nick", "string"), ("created", "timestamp"),
  ("delist_time", "timestamp"), ("pic_url", "string"), ("detail_url", "string")]

def tbBuyers : List FieldSpec := [
  ("nick", "string"), ("buyer_credit_level", "integer"), ("sex", "string"),
  ("created", "timestamp"), ("buyer_area", "string")]

def tbRefunds : List FieldSpec := [
  ("refund_id", "string"), ("tid", "string"), ("num_iid", "string"), ("title", "string"),
  ("buyer_nick", "string"), ("seller_nick", "string"), ("total_fee", "decimal"),
  ("refund_fee", "decimal"), ("status", "string"), ("reason", "string"), ("created", "timestamp"),
  ("modified", "timestamp")]

def tbTableFor : TaobaoTable → TableSpec
  | .trades => ("trades", tbTrades)
  | .products => ("products", tbProducts)
  | .buyers => ("buyers", tbBuyers)
  | .refunds => ("refunds", tbRefunds)

def allTaobaoTables : List TaobaoTable := [.trades, .products, .buyers, .refunds]

def taobaoTemplate : PlatformTemplate where
  industry := "ecommerce"
  domainScope := "taobao"
  sourceMode := "taobao_export"
  toolNamespace := "commerce"
  adapterType := "taobao"
  defaultLabel := "taobao"
  relations := [
    rel "BuyerPlacesTrade" "Buyer" "places" "Trade" "trades" "buyer_nick" "buyers",
    rel "TradeReferencesProduct" "Trade" "references" "Product" "trades" "num_iid" "products",
    rel "RefundBelongsToTrade" "Refund" "belongs_to" "Trade" "refunds" "tid" "trades"]
  metrics := [
    metric "gmv" "Trade" "SUM(payment)",
    metric "refund_rate" "Trade" "COUNT(refunds) / COUNT(trades) * 100",
    metric "avg_order_value" "Trade" "AVG(payment)"]
  actions := [
    action "close_trade" "Trade" true
      (.ofFields [("tid", .string "string"), ("reason", .string "string")])
      (.ofFields [("reads", .ofStrings ["Trade"])]),
    action "agree_refund" "Refund" true (.ofFields [("refund_id", .string "string")])
      (.ofFields [("reads", .ofStrings ["Refund", "Trade"])])]

abbrev TaobaoAdapterInput := CommerceAdapterInput TaobaoTable

def adaptTaobao (input : TaobaoAdapterInput) (bytes : Option SourceBytes) :
    OntologySourceAdapterOutput :=
  adaptCommerce characters decoders taobaoTemplate allTaobaoTables tbTableFor "trades" input bytes

/-! ### TikTok Shop -/

inductive TiktokShopTable where
  | orders
  | products
  | creators
  | settlements
  | returns
deriving DecidableEq, Repr

def ttOrders : List FieldSpec := [
  ("order_id", "string"), ("order_status", "string"), ("buyer_uid", "string"),
  ("create_time", "timestamp"), ("update_time", "timestamp"), ("payment_method", "string"),
  ("item_original_price", "decimal"), ("shipping_fee", "decimal"), ("platform_discount", "decimal"),
  ("seller_discount", "decimal"), ("order_income", "decimal"), ("currency", "string"),
  ("region", "string")]

def ttProducts : List FieldSpec := [
  ("product_id", "string"), ("product_name", "string"), ("product_status", "string"),
  ("category_chain", "string"), ("brand_id", "string"), ("seller_sku", "string"),
  ("price", "decimal"), ("currency", "string"), ("stock", "integer"), ("sales_30d", "integer"),
  ("rating", "decimal"), ("create_time", "timestamp")]

def ttCreators : List FieldSpec := [
  ("creator_id", "string"), ("creator_name", "string"), ("creator_handle", "string"),
  ("region", "string"), ("followers", "integer"), ("gmv_30d", "decimal"), ("orders_30d", "integer"),
  ("commission_rate", "decimal"), ("status", "string")]

def ttSettlements : List FieldSpec := [
  ("settlement_id", "string"), ("settlement_date", "date"), ("order_id", "string"),
  ("product_id", "string"), ("seller_revenue", "decimal"), ("platform_fee", "decimal"),
  ("shipping_subsidy", "decimal"), ("commission", "decimal"), ("currency", "string")]

def ttReturns : List FieldSpec := [
  ("return_id", "string"), ("order_id", "string"), ("product_id", "string"),
  ("return_reason", "string"), ("return_status", "string"), ("refund_amount", "decimal"),
  ("currency", "string"), ("create_time", "timestamp")]

def ttTableFor : TiktokShopTable → TableSpec
  | .orders => ("orders", ttOrders)
  | .products => ("products", ttProducts)
  | .creators => ("creators", ttCreators)
  | .settlements => ("settlements", ttSettlements)
  | .returns => ("returns", ttReturns)

def allTiktokShopTables : List TiktokShopTable := [
  .orders, .products, .creators, .settlements, .returns]

def tiktokShopTemplate : PlatformTemplate where
  industry := "ecommerce"
  domainScope := "tiktok_shop"
  sourceMode := "tiktok_shop_export"
  toolNamespace := "commerce"
  adapterType := "tiktok_shop"
  defaultLabel := "tiktok_shop"
  relations := [
    rel "SettlementBelongsToOrder" "Settlement" "belongs_to" "Order" "settlements" "order_id"
      "orders",
    rel "ReturnBelongsToOrder" "Return" "belongs_to" "Order" "returns" "order_id" "orders",
    rel "SettlementReferencesProduct" "Settlement" "references" "Product" "settlements"
      "product_id" "products"]
  metrics := [
    metric "gmv" "Order" "SUM(item_original_price)",
    metric "net_revenue" "Settlement" "SUM(seller_revenue)",
    metric "creator_gmv" "Creator" "SUM(gmv_30d)",
    metric "return_rate" "Order" "COUNT(returns) / COUNT(orders) * 100"]
  actions := [
    action "approve_return" "Return" true (.ofFields [("return_id", .string "string")])
      (.ofFields [("reads", .ofStrings ["Return", "Order"])]),
    action "invite_creator" "Creator" false
      (.ofFields [("creator_id", .string "string"), ("commission_rate", .string "decimal")])
      (.ofFields [("reads", .ofStrings ["Creator"])])]

abbrev TiktokShopAdapterInput := CommerceAdapterInput TiktokShopTable

def adaptTiktokShop (input : TiktokShopAdapterInput) (bytes : Option SourceBytes) :
    OntologySourceAdapterOutput :=
  adaptCommerce characters decoders tiktokShopTemplate allTiktokShopTables ttTableFor
    "orders" input bytes

/-! ### Temu -/

inductive TemuTable where
  | orders
  | products
  | pricing
  | logistics
deriving DecidableEq, Repr

def temuOrders : List FieldSpec := [
  ("order_sn", "string"), ("order_status", "string"), ("buyer_id", "string"),
  ("goods_id", "string"), ("goods_name", "string"), ("goods_spec", "string"),
  ("goods_count", "integer"), ("goods_price", "decimal"), ("order_amount", "decimal"),
  ("freight_amount", "decimal"), ("currency", "string"), ("pay_time", "timestamp"),
  ("region", "string")]

def temuProducts : List FieldSpec := [
  ("goods_id", "string"), ("goods_name", "string"), ("goods_status", "string"),
  ("cat_id", "string"), ("goods_spec", "string"), ("sku_id", "string"), ("goods_img", "string"),
  ("sales_volume", "integer"), ("goods_rating", "decimal"), ("platform_category", "string")]

def temuPricing : List FieldSpec := [
  ("sku_id", "string"), ("goods_id", "string"), ("goods_spec", "string"), ("cost_price", "decimal"),
  ("sale_price", "decimal"), ("suggested_price", "decimal"), ("currency", "string"),
  ("discount_rate", "decimal"), ("effective_date", "date")]

def temuLogistics : List FieldSpec := [
  ("order_sn", "string"), ("logistics_no", "string"), ("logistics_company", "string"),
  ("ship_time", "timestamp"), ("delivery_time", "timestamp"), ("logistics_status", "string"),
  ("country", "string"), ("weight_kg", "decimal")]

def temuTableFor : TemuTable → TableSpec
  | .orders => ("orders", temuOrders)
  | .products => ("products", temuProducts)
  | .pricing => ("pricing", temuPricing)
  | .logistics => ("logistics", temuLogistics)

def allTemuTables : List TemuTable := [.orders, .products, .pricing, .logistics]

def temuTemplate : PlatformTemplate where
  industry := "ecommerce"
  domainScope := "temu"
  sourceMode := "temu_export"
  toolNamespace := "commerce"
  adapterType := "temu"
  defaultLabel := "temu"
  relations := [
    rel "OrderReferencesProduct" "Order" "references" "Product" "orders" "goods_id" "products",
    rel "LogisticsBelongsToOrder" "Logistics" "belongs_to" "Order" "logistics" "order_sn" "orders",
    rel "PricingReferencesProduct" "Pricing" "references" "Product" "pricing" "goods_id" "products"]
  metrics := [
    metric "gmv" "Order" "SUM(order_amount)",
    metric "avg_selling_price" "Pricing" "AVG(sale_price)",
    metric "logistics_on_time_rate" "Logistics"
      "COUNT(*) FILTER(delivery_time <= expected_time) / COUNT(*) * 100"]
  actions := [
    action "update_sku_price" "Pricing" false
      (.ofFields [("sku_id", .string "string"), ("new_price", .string "decimal")])
      (.ofFields [("reads", .ofStrings ["Pricing", "Product"])]),
    action "withdraw_product" "Product" true
      (.ofFields [("goods_id", .string "string"), ("reason", .string "string")])
      (.ofFields [("reads", .ofStrings ["Product", "Order"])])]

abbrev TemuAdapterInput := CommerceAdapterInput TemuTable

def adaptTemu (input : TemuAdapterInput) (bytes : Option SourceBytes) :
    OntologySourceAdapterOutput :=
  adaptCommerce characters decoders temuTemplate allTemuTables temuTableFor "orders" input bytes

/-! ### WooCommerce -/

inductive WoocommerceTable where
  | orders
  | orderItems
  | products
  | customers
  | «meta»
deriving DecidableEq, Repr

def wcOrders : List FieldSpec := [
  ("id", "string"), ("status", "string"), ("currency", "string"), ("date_created", "timestamp"),
  ("total", "decimal"), ("subtotal", "decimal"), ("total_tax", "decimal"),
  ("shipping_total", "decimal"), ("discount_total", "decimal"), ("customer_id", "string"),
  ("billing_country", "string"), ("payment_method", "string")]

def wcOrderItems : List FieldSpec := [
  ("id", "string"), ("order_id", "string"), ("product_id", "string"), ("variation_id", "string"),
  ("name", "string"), ("quantity", "integer"), ("subtotal", "decimal"), ("total", "decimal"),
  ("tax", "decimal")]

def wcProducts : List FieldSpec := [
  ("id", "string"), ("name", "string"), ("slug", "string"), ("type", "string"),
  ("status", "string"), ("sku", "string"), ("price", "decimal"), ("regular_price", "decimal"),
  ("sale_price", "decimal"), ("stock_quantity", "integer"), ("categories", "string"),
  ("date_created", "timestamp")]

def wcCustomers : List FieldSpec := [
  ("id", "string"), ("email", "string"), ("first_name", "string"), ("last_name", "string"),
  ("username", "string"), ("date_created", "timestamp"), ("orders_count", "integer"),
  ("total_spent", "decimal"), ("billing_country", "string")]

def wcMeta : List FieldSpec := [
  ("meta_id", "string"), ("object_id", "string"), ("object_type", "string"), ("meta_key", "string"),
  ("meta_value", "string")]

def wcTableFor : WoocommerceTable → TableSpec
  | .orders => ("orders", wcOrders)
  | .orderItems => ("order_items", wcOrderItems)
  | .products => ("products", wcProducts)
  | .customers => ("customers", wcCustomers)
  | .«meta» => ("meta", wcMeta)

def allWoocommerceTables : List WoocommerceTable := [
  .orders, .orderItems, .products, .customers, .«meta»]

def woocommerceTemplate : PlatformTemplate where
  industry := "ecommerce"
  domainScope := "woocommerce"
  sourceMode := "woocommerce_export"
  toolNamespace := "commerce"
  adapterType := "woocommerce"
  defaultLabel := "woocommerce"
  relations := [
    rel "CustomerPlacesOrder" "Customer" "places" "Order" "orders" "customer_id" "customers",
    rel "OrderItemBelongsToOrder" "OrderItem" "belongs_to" "Order" "order_items" "order_id"
      "orders",
    rel "OrderItemReferencesProduct" "OrderItem" "references" "Product" "order_items" "product_id"
      "products"]
  metrics := [
    metric "gmv" "Order" "SUM(total)",
    metric "aov" "Order" "AVG(total)",
    metric "ltv" "Customer" "SUM(total_spent)",
    metric "items_per_order" "OrderItem" "COUNT(*) / COUNT(DISTINCT order_id)"]
  actions := [
    action "update_order_status" "Order" false
      (.ofFields [("order_id", .string "string"), ("status", .string "string")])
      (.ofFields [("reads", .ofStrings ["Order"])]),
    action "adjust_stock" "Product" false
      (.ofFields [("product_id", .string "string"), ("delta", .string "integer")])
      (.ofFields [("reads", .ofStrings ["Product"])])]

abbrev WoocommerceAdapterInput := CommerceAdapterInput WoocommerceTable

def adaptWoocommerce (input : WoocommerceAdapterInput) (bytes : Option SourceBytes) :
    OntologySourceAdapterOutput :=
  adaptCommerce characters decoders woocommerceTemplate allWoocommerceTables wcTableFor
    "orders" input bytes

/-! ### The dispatch -/

inductive OntologySourcePayload where
  | csv (input : CsvAdapterInput)
  | json (input : JsonAdapterInput)
  | parquet (input : ParquetAdapterInput)
  | pdf (input : PdfAdapterInput)
  | excel (input : ExcelAdapterInput)
  | salesforce (input : SalesforceAdapterInput)
  | hubspot (input : HubspotAdapterInput)
  | sapS4Hana (input : SapS4HanaAdapterInput)
  | oracleNetsuite (input : OracleNetsuiteAdapterInput)
  | amazonSellerCentral (input : AmazonSellerCentralAdapterInput)
  | taobao (input : TaobaoAdapterInput)
  | tiktokShop (input : TiktokShopAdapterInput)
  | temu (input : TemuAdapterInput)
  | shopify (input : ShopifyAdapterInput)
  | woocommerce (input : WoocommerceAdapterInput)

def adaptPayload (payload : OntologySourcePayload) (bytes : Option SourceBytes) :
    Except AppError OntologySourceAdapterOutput :=
  match payload with
  | .csv input => do
      adaptCsv characters decoders input (← bytesOrInline decoders bytes input.file)
  | .json input => do
      adaptJson characters decoders input (← bytesOrInline decoders bytes input.file)
  | .parquet input => do
      adaptParquet characters decoders input (← bytesOrInline decoders bytes input.file)
  | .pdf input => do
      adaptPdf characters decoders input (← bytesOrInline decoders bytes input.file)
  | .excel input => do
      adaptExcel characters decoders input (← bytesOrInline decoders bytes input.file)
  | .salesforce input => .ok (adaptSalesforce characters input)
  | .hubspot input => .ok (adaptHubspot characters input)
  | .sapS4Hana input => .ok (adaptSapS4Hana characters input)
  | .oracleNetsuite input => .ok (adaptOracleNetsuite characters input)
  | .amazonSellerCentral input => .ok (adaptAmazonSellerCentral characters decoders input bytes)
  | .taobao input => .ok (adaptTaobao characters decoders input bytes)
  | .tiktokShop input => .ok (adaptTiktokShop characters decoders input bytes)
  | .temu input => .ok (adaptTemu characters decoders input bytes)
  | .shopify input => .ok (adaptShopify characters decoders input bytes)
  | .woocommerce input => .ok (adaptWoocommerce characters decoders input bytes)

end adapters

end MandoForge
