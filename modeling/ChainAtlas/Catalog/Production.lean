import ChainAtlas.Json.Basic

/-!
# The production document

A document that ships with the library: the networks of the production environment.
It is read like any other document, and checked like any other.
-/

namespace ChainAtlas
namespace Catalog

/-- The entry of `ethereum` in this document. -/
def productionEthereum : Json :=
  .object [
    ("chainId", .int 1),
    ("environment", .text "production"),
    ("name", .text "Ethereum"),
    ("nativeCurrency", .object [
      ("symbol", .text "ETH"),
      ("name", .text "Ethereum"),
      ("decimals", .int 18)]),
    ("rpcEndpoints", .list []),
    ("contracts", .object [
      ("AMB", .text "0x4C36d2919e407f0Cc2Ee3c993ccF8ac26d9CE64e"),
      ("DATA-token", .text "0x8f693ca8D21b157107184d29D398A8D082b38b76"),
      ("ENS", .text "0x00000000000C2E074eC69A0dFb2997BA6C7d2e1e"),
      ("Marketplace", .text "0xdc8d23092b93f9bb7416f45dea36f55996f34867"),
      ("MediatorDATA", .text "0x29e572d45cC33D5a68DCc8f92bfc7ded0017Bc59"),
      ("MediatorXDATA", .text "0x2eeeDdeECe91c9F4c5bA4C8E1d784A0234C6d015"),
      ("MigrationManager", .text "0xf32219E61c840300D1B35c939ed9E54a86163334"),
      ("TrackerRegistry", .text "0xab9BEb0e8B106078c953CcAB4D6bF9142BeF854d"),
      ("UniswapAdapter", .text "0xbe99db4ea1964ea9a9e80de41517901da6ef9307"),
      ("XDATA", .text "0x0cf0ee63788a0849fe5297f3407f701e122cc023"),
      ("core-api", .text "0xf3E5A65851C3779f468c9EcB32E6f25D9D68601a")]),
    ("blockExplorerUrl", .text "https://etherscan.io")]

/-- The entry of `gnosis` in this document. -/
def productionGnosis : Json :=
  .object [
    ("chainId", .int 100),
    ("environment", .text "production"),
    ("name", .text "Gnosis Chain"),
    ("nativeCurrency", .object [
      ("symbol", .text "xDAI"),
      ("name", .text "xDai"),
      ("decimals", .int 18)]),
    ("rpcEndpoints", .list [
      .object [
        ("protocol", .text "http"),
        ("url", .text "https://rpc.gnosischain.com")],
      .object [
        ("protocol", .text "websocket"),
        ("url", .text "wss://rpc.gnosischain.com/wss")]]),
    ("contracts", .object [
      ("AMB", .text "0x75Df5AF045d91108662D8080fD1FEFAd6aA0bb59"),
      ("DATA-token", .text "0x256eb8a51f382650B2A1e946b8811953640ee47D"),
      ("DataUnionFactory", .text "0xe4515702878931b45Dfe4D89d3Fb3208910C913C"),
      ("DataUnionTemplate", .text "0x1d425525c7A5df3736875fe76Bc3B9E776E89AcA"),
      ("DataUnionFeeOracle", .text "0x86686266E7cA80b247151104f26d308079997637"),
      ("Marketplace", .text "0x246dd6D96282c1ED9Ca69eF9f3e1f975fC1B8Bd5"),
      ("MarketplaceV3", .text "0x2022E1F7749D355726Fb65285E29605A098bcb52"),
      ("MediatorDATA", .text "0x53f3F44c434494da73EC44a6E8a8D091332bC2ce"),
      ("MediatorXDATA", .text "0x7d55f9981d4E10A193314E001b96f72FCc901e40"),
      ("RemoteMarketplaceV1", .text "0x023eaE17d3dd65F1e7b4daa355e6478719Bd2BEf"),
      ("StorageNodeRegistry", .text "0xC746847d7916623fb75849696f04827bbc34854f"),
      ("XDATA", .text "0xE4a2620edE1058D61BEe5F45F6414314fdf10548")]),
    ("blockExplorerUrl", .text "https://gnosisscan.io")]

/-- The entry of `binance` in this document. -/
def productionBinance : Json :=
  .object [
    ("chainId", .int 56),
    ("environment", .text "production"),
    ("name", .text "BNB Chain"),
    ("nativeCurrency", .object [
      ("symbol", .text "BNB"),
      ("name", .text "BNB"),
      ("decimals", .int 18)]),
    ("rpcEndpoints", .list [
      .object [
        ("protocol", .text "http"),
        ("url", .text "https://bsc-dataseed.binance.org")],
      .object [
        ("protocol", .text "websocket"),
        ("url", .text "wss://bsc-dataseed.binance.org")]]),
    ("contracts", .object [
      ("DATA-token", .text "0x0864c156b3c5f69824564dec60c629ae6401bf2a"),
      ("xdaiBridge", .text "0xa93ee7b4a7215f7e725437a6b6d7a4e7fe1dd8f0")]),
    ("blockExplorerUrl", .text "https://bscscan.com")]

/-- The entry of `polygon` in this document. -/
def productionPolygon : Json :=
  .object [
    ("chainId", .int 137),
    ("environment", .text "production"),
    ("name", .text "Polygon"),
    ("nativeCurrency", .object [
      ("symbol", .text "MATIC"),
      ("name", .text "MATIC"),
      ("decimals", .int 18)]),
    ("rpcEndpoints", .list [
      .object [
        ("protocol", .text "http"),
        ("url", .text "https://polygon-rpc.com")],
      .object [
        ("protocol", .text "http"),
        ("url", .text "https://polygon.gateway.tenderly.co")]]),
    ("contracts", .object [
      ("DATA-token", .text "0x3a9A81d576d83FF21f26f325066054540720fC34"),
      ("ENSCacheV2", .text "0xEd9d3D29c25e197677DD84E3f7D81cCCD613B2bF"),
      ("MarketplaceV4", .text "0xdF8b74D735197dCD5C94bE933db080E69A958de6"),
      ("ProjectRegistryV1", .text "0x496a6154da5aA6a021a3bd0DCd337DA80F48a6e1"),
      ("ProjectStakingV1", .text "0xAA7a4BdBE91F143F3103206e48A8AfF21101B6DE"),
      ("StorageNodeRegistry", .text "0x080F34fec2bc33928999Ea9e39ADc798bEF3E0d6"),
      ("StreamRegistry", .text "0x0D483E10612F327FC11965Fc82E90dC19b141641"),
      ("StreamStorageRegistry", .text "0xe8e2660CeDf2a59C917a5ED05B72df4146b58399"),
      ("StreamrConfig", .text "0x869e88dB146ECAF20dDf199a12684cD80c263c8f"),
      ("SponsorshipFactory", .text "0x820b2f9a15ed45F9802c59d0CC77C22C81755e45"),
      ("OperatorFactory", .text "0x935734e66729b69260543Cf6e5EfeB42AC962183")]),
    ("blockExplorerUrl", .text "https://polygonscan.com"),
    ("theGraphUrl", .text "https://gateway-arbitrum.network.thegraph.com/api/a971cec07440a9ec63cd806c06ccc990/subgraphs/id/EGWFdhhiWypDuz22Uy7b3F69E9MEkyfU9iAQMttkH5Rj")]

/-- The document of the production environment. -/
def production : Json := .object [
  ("ethereum", productionEthereum),
  ("gnosis", productionGnosis),
  ("binance", productionBinance),
  ("polygon", productionPolygon)]

end Catalog
end ChainAtlas
